import BoolCalc.Proofs.Display

/-!
# The parts of the screen lie apart

The five parts of the screen are drawn one after the other, each in rows of its own. So while
neither the gate table nor the help lies over them, a cell in the rows of a part shows what the part
alone would show there.
-/

namespace BoolCalc

/-- A row lies above or below an area. -/
def Area.Beside (a : Area) (y : ℕ) : Prop := y < a.y ∨ a.y + a.height ≤ y

namespace Canvas

variable {before c behind : Canvas} {a : Area} {x y : ℕ}

/-- A canvas draws nothing in a row. -/
def Spares (c : Canvas) (y : ℕ) : Prop := ∀ l ∈ c, ∀ x old, l.apply x y old = old

lemma Spares.onto (h : c.Spares y) (x : ℕ) (old : Cell) : c.onto x y old = old := by
  induction c with
  | nil => rfl
  | cons l c ih =>
    obtain ⟨hl, hc⟩ := List.forall_mem_cons.1 h
    rw [onto_cons, hl, ih hc]

lemma spares_nil (y : ℕ) : Spares [] y := List.forall_mem_nil _

lemma Spares.append (hc : c.Spares y) (hd : behind.Spares y) : (c ++ behind).Spares y :=
  List.forall_mem_append.2 ⟨hc, hd⟩

/-- What is drawn in other rows leaves the cells of a canvas. -/
lemma cell_between (hbefore : before.Spares y) (hbehind : behind.Spares y) (c : Canvas) (x : ℕ) :
    (before ++ c ++ behind).cell x y = c.cell x y := by
  rw [cell_append_onto, hbehind.onto, cell_append_onto]
  exact congrArg (c.onto x y) (hbefore.onto x .blank)

/-! ### Layers beside a row -/

lemma contains_of_beside (h : a.Beside y) (x : ℕ) : a.contains x y = false := by
  rw [Bool.eq_false_iff]
  intro hin
  simp only [Area.contains, Bool.and_eq_true, decide_eq_true_eq] at hin
  rcases h with h | h <;> omega

lemma beside_inner (h : a.Beside y) : a.inner.Beside y := by
  simp only [Area.Beside, Area.inner] at h ⊢
  omega

lemma spares_paint (h : a.Beside y) (change : Style → Style) : Spares [.paint a change] y := by
  refine List.forall_mem_singleton.2 fun x old => ?_
  rw [Layer.apply, contains_of_beside h, if_neg Bool.false_ne_true]

lemma spares_box (h : a.Beside y) (title : List Char) : Spares [.box a title] y := by
  refine List.forall_mem_singleton.2 fun x old => ?_
  rw [Layer.apply, contains_of_beside h, if_neg Bool.false_ne_true]

lemma spares_rowsIn (h : a.Beside y) (rows : List (List Stroke)) : (rowsIn a rows).Spares y := by
  intro l hl x old
  obtain ⟨r, hr, rfl⟩ := List.mem_map.1 hl
  have hlt := List.snd_lt_of_mem_zipIdx hr
  have hle : (rows.take a.height).length ≤ a.height := List.length_take_le _ _
  have hne : y ≠ a.y + r.2 := by
    rcases h with h | h <;> omega
  simp [Layer.apply, hne]

end Canvas

namespace Screen

open Canvas

variable {width height : ℕ} {sh : Shell} {y : ℕ}

/-! ### The rows of each part -/

lemma spares_drawHeading (hy : 1 ≤ y) : (drawHeading width sh).Spares y := by
  have hbeside : (headingArea width).Beside y := .inr hy
  exact (spares_paint hbeside _).append (spares_rowsIn hbeside _)

lemma spares_drawInput (hy : y < 1 ∨ 4 ≤ y) : (drawInput width sh).Spares y := by
  have hbeside : (inputArea width).Beside y := hy
  rw [drawInput]
  exact ((spares_paint hbeside _).append (spares_box hbeside _)).append
    (spares_rowsIn (beside_inner hbeside) _)

lemma spares_drawResult (hy : y < 4 ∨ 8 ≤ y) : (drawResult width sh).Spares y := by
  have hbeside : (resultArea width).Beside y := hy
  exact (spares_box hbeside _).append (spares_rowsIn (beside_inner hbeside) _)

lemma spares_drawHistory (hy : y < 8 ∨ 8 + (height - 11) ≤ y) :
    (drawHistory width height sh).Spares y := by
  have hbeside : (historyArea width height).Beside y := hy
  have hinner := beside_inner hbeside
  rw [drawHistory]
  refine ((spares_box hbeside _).append ?_).append (spares_rowsIn hinner _)
  split
  · exact spares_nil y
  · split
    · -- The mark of the recalled entry lies among the entries.
      have hle : (entriesInView width height sh).length ≤ (historyArea width height).inner.height :=
        List.length_take_le _ _
      refine spares_paint ?_ _
      simp only [Area.Beside] at hinner ⊢
      omega
    · exact spares_nil y

lemma spares_drawStatus (hy : y < height - 3 ∨ height - 3 + 3 ≤ y) :
    (drawStatus width height sh).Spares y := by
  have hbeside : (statusArea width height).Beside y := hy
  exact ((spares_paint hbeside _).append (spares_box hbeside _)).append
    (spares_rowsIn (beside_inner hbeside) _)

/-! ### The parts alone -/

section

variable (hgates : sh.mode ≠ .gates) (hhelp : sh.mode ≠ .help)

include hgates hhelp

lemma canvas_ofShell :
    (ofShell width height sh).canvas =
      drawHeading width sh ++ drawInput width sh ++
        (drawResult width sh ++ drawHistory width height sh ++ drawStatus width height sh) := by
  have hpopup : drawPopup width height sh = [] := by
    rw [drawPopup]
    split
    · exact absurd ‹_› hgates
    · exact absurd ‹_› hhelp
    · rfl
  simp only [ofShell, hpopup, List.append_nil, List.append_assoc]

lemma cell_input (hheight : 11 ≤ height) (hy : 1 ≤ y ∧ y < 4) (x : ℕ) :
    (ofShell width height sh).canvas.cell x y = (drawInput width sh).cell x y := by
  rw [canvas_ofShell hgates hhelp]
  exact cell_between (spares_drawHeading hy.1)
    (((spares_drawResult (.inl hy.2)).append (spares_drawHistory (by omega))).append
      (spares_drawStatus (by omega))) _ x

lemma cell_history (hy : 8 ≤ y ∧ y < 8 + (height - 11)) (x : ℕ) :
    (ofShell width height sh).canvas.cell x y = (drawHistory width height sh).cell x y := by
  rw [canvas_ofShell hgates hhelp, ← List.append_assoc, ← List.append_assoc]
  exact cell_between
    (((spares_drawHeading (by omega)).append (spares_drawInput (by omega))).append
      (spares_drawResult (.inr hy.1)))
    (spares_drawStatus (by omega)) _ x

lemma cell_status (hheight : 11 ≤ height) (hy : height - 3 ≤ y ∧ y < height) (x : ℕ) :
    (ofShell width height sh).canvas.cell x y = (drawStatus width height sh).cell x y := by
  rw [canvas_ofShell hgates hhelp, ← List.append_assoc, ← List.append_nil (_ ++ _)]
  exact cell_between
    (((spares_drawHeading (by omega)).append (spares_drawInput (by omega))).append
      ((spares_drawResult (by omega)).append (spares_drawHistory (by omega))))
    (spares_nil y) _ x

end

end Screen

end BoolCalc
