import Mathlib.Data.List.Induction
import BoolCalc.Proofs.Parts
import BoolCalc.Proofs.Recall

/-!
# The history on the screen and the recalled entry

The panel of the history and the arrow keys count the entries from the newest one on, each for
itself. Here they are brought together: the panel shows the newest entries, one in each row, and the
row that stands out is that of the entry which the last arrow put into the line.
-/

namespace BoolCalc

/-! ### The panel -/

namespace Text

lemma mem_of_mem_trim {c : Char} {cs : List Char} (h : c ∈ trim cs) : c ∈ cs := by
  rw [trim, List.mem_reverse] at h
  have hbehind := List.mem_reverse.1 ((List.dropWhile_suffix _).mem h)
  exact (List.dropWhile_suffix _).mem hbehind

end Text

/-- What an entry shows are printable characters of one column each, which may join each other. -/
def HistoryEntry.Single (e : HistoryEntry) : Prop :=
  ∀ c ∈ e.expression.toList ++ e.rpn.toList ++ [e.symbol], Text.Single c

namespace Screen

variable {c : Canvas} {a : Area} {text : List Char} {style : Style} {width height : ℕ} {sh : Shell}
  {i j : ℕ} {e : HistoryEntry}

/-- As many whole clusters of a text as have room are printed in a row, and blanks behind them, all
in one style. -/
def ShowsText (c : Canvas) (a : Area) (j : ℕ) (text : List Char) (style : Style) : Prop :=
  ∃ k, Text.totalColumns ((Text.clusters text).take k) ≤ a.width ∧
    (∀ d, (Text.clusters text)[k]? = some d →
      a.width < Text.totalColumns ((Text.clusters text).take k) + Text.columns d) ∧
    Cell.seen (c.rowCells a j) =
      ((Text.clusters text).take k ++
        List.replicate (a.width - Text.totalColumns ((Text.clusters text).take k)) [' ']).map
          fun t => ⟨t, style⟩

/-- A text that has room is printed whole. -/
lemma ShowsText.whole (h : ShowsText c a j text style)
    (hfits : Text.totalColumns (Text.clusters text) ≤ a.width) :
    Cell.seen (c.rowCells a j) =
      (Text.clusters text ++
        List.replicate (a.width - Text.totalColumns (Text.clusters text)) [' ']).map
          fun t => ⟨t, style⟩ := by
  obtain ⟨k, -, hnext, hseen⟩ := h
  have hall : (Text.clusters text).length ≤ k := by
    by_contra hlt
    have hd := hnext _ (List.getElem?_eq_getElem (Nat.lt_of_not_le hlt))
    rw [← List.take_append_drop (k + 1) (Text.clusters text),
      List.take_succ_eq_append_getElem (Nat.lt_of_not_le hlt), Text.totalColumns_append,
      Text.totalColumns_append, Text.totalColumns, Text.totalColumns] at hfits
    omega
  rw [List.take_of_length_le hall] at hseen
  exact hseen

/-- **A row of a list prints its text cluster by cluster**, cut at the edge. -/
lemma showsText_of_listRow (htext : ∀ ch ∈ text, Text.columnsOf ch ≠ 0)
    (hcell : ∀ i < a.width, c.cell (a.x + i) (a.y + j) =
      ((Glyph.listRow a.width (Glyph.ofText id text))[i]?.map
        (·.onto ⟨[' '], style⟩)).getD ⟨[' '], style⟩) :
    ShowsText c a j text style := by
  have hglyphs : ∀ g ∈ Glyph.ofText id text, g.width ≠ 0 ∧ g.width = Text.columns g.text := by
    intro g hg
    obtain ⟨t, ht, rfl⟩ := List.mem_map.1 hg
    refine ⟨Text.columns_ne_zero ?_ fun ch hch => htext ch (Text.mem_of_mem_clusters ht hch), rfl⟩
    rintro rfl
    exact Text.nil_notMem_clusters text ht
  obtain ⟨k, hfit, hnext⟩ := Glyph.exists_fit_eq_take a.width (Glyph.ofText id text)
  have htake : (Glyph.ofText id text).take k =
      ((Text.clusters text).take k).map fun t => ⟨t, Text.columns t, id⟩ := List.map_take.symm
  have htotal : Glyph.total ((Glyph.ofText id text).take k) =
      Text.totalColumns ((Text.clusters text).take k) := by rw [htake, Glyph.total_map]
  have hroom : Text.totalColumns ((Text.clusters text).take k) ≤ a.width := by
    rw [← htotal, ← hfit]
    exact Glyph.total_fit_le _ _
  rw [Glyph.listRow_of_width_ne_zero fun g hg => (hglyphs g hg).1, hfit] at hcell
  have hwidths : ∀ g ∈ (Glyph.ofText id text).take k, g.width ≠ 0 := fun g hg =>
    (hglyphs g (List.mem_of_mem_take hg)).1
  have hlength := Glyph.length_flatMap_strokes (fun _ => .plain) hwidths
  rw [htotal] at hlength
  refine ⟨k, hroom, fun d hd => ?_, ?_⟩
  · have hlate := hnext ⟨d, Text.columns d, id⟩ (by simp [Glyph.ofText, hd])
    rwa [htotal] at hlate
  · rw [Canvas.rowCells_eq (hlength ▸ hroom) hcell, hlength,
      Cell.seen_strokes _ fun g hg => hglyphs g (List.mem_of_mem_take hg),
      Cell.seen_replicate_blank, htake, List.map_map, List.map_append, List.map_replicate]
    rfl

lemma single_historyText (h : e.Single) : ∀ c ∈ historyText e, Text.Single c := by
  have hfixed : ∀ c ∈ " = ".toList ++ "    [".toList ++ [']'], Text.Single c := fun c hc =>
    (Text.plain_of_all (by decide +kernel) c hc).single
  simp only [HistoryEntry.Single, List.forall_mem_append] at h hfixed
  simp only [historyText, List.forall_mem_append]
  exact ⟨⟨⟨⟨⟨fun c hc => h.1.1 c (Text.mem_of_mem_trim hc), hfixed.1.1⟩, h.2⟩, hfixed.1.2⟩, h.1.2⟩,
    hfixed.2⟩

/-- The style in which the recalled entry stands out. -/
def marked : Style := ⟨.white, .blue, false⟩

/-- The paint over the recalled one of `n` rows in an area. -/
def markOf (a : Area) (n : ℕ) : Option ℕ → Canvas
  | none => []
  | some k =>
    if k < n then
      [.paint ⟨a.x, a.y + k, a.width, 1⟩ fun s => { s with ink := .white, paper := .blue }]
    else []

lemma drawHistory_eq (width height : ℕ) (sh : Shell) :
    drawHistory width height sh =
      .box (historyArea width height) s!"History ({sh.history.length})".toList ::
          markOf (historyArea width height).inner (entriesInView width height sh).length
            sh.recalled ++
        Canvas.rowsIn (historyArea width height).inner
          ((entriesInView width height sh).map fun e =>
            Glyph.listRow (historyArea width height).inner.width
              (Glyph.ofText id (historyText e))) := by
  rw [drawHistory]
  cases sh.recalled <;> rfl

lemma contains_row {a : Area} (k : ℕ) (hi : i < a.width) :
    Area.contains ⟨a.x, a.y + k, a.width, 1⟩ (a.x + i) (a.y + j) = decide (k = j) := by
  rw [Bool.eq_iff_iff]
  simp only [Area.contains, Bool.and_eq_true, decide_eq_true_eq]
  omega

lemma onto_markOf {a : Area} (n : ℕ) (r : Option ℕ) (hi : i < a.width) :
    (markOf a n r).onto (a.x + i) (a.y + j) .blank =
      ⟨[' '], if r = some j ∧ j < n then marked else .plain⟩ := by
  cases r with
  | none => rfl
  | some k =>
    rw [markOf]
    by_cases hk : k < n
    · rw [if_pos hk, Canvas.onto_cons, Layer.apply, contains_row k hi]
      by_cases hkj : k = j
      · have hin : some k = some j ∧ j < n := ⟨congrArg some hkj, hkj ▸ hk⟩
        rw [decide_eq_true hkj, if_pos hin]
        rfl
      · have hout : ¬(some k = some j ∧ j < n) := fun h => hkj (Option.some.inj h.1)
        rw [decide_eq_false hkj, if_neg hout]
        rfl
    · have hout : ¬(some k = some j ∧ j < n) := by
        rintro ⟨hkj, hj⟩
        exact hk (Option.some.inj hkj ▸ hj)
      rw [if_neg hk, if_neg hout]
      rfl

/-- The style of a row of the history: that of the recalled entry stands out, if it is in view. -/
def rowStyle (width height : ℕ) (sh : Shell) (j : ℕ) : Style :=
  if sh.recalled = some j ∧ j < min (historyArea width height).inner.height sh.history.length
  then marked else .plain

/-- **A cell of the history** belongs to the row of the entry that is as far behind the newest one
as the row is below the first. -/
lemma cell_drawHistory (hi : i < (historyArea width height).inner.width)
    (hj : j < (historyArea width height).inner.height) :
    (drawHistory width height sh).cell ((historyArea width height).inner.x + i)
        ((historyArea width height).inner.y + j) =
      ((Glyph.listRow (historyArea width height).inner.width
          (Glyph.ofText id ((sh.history.reverse[j]?.map historyText).getD [])))[i]?.map
        (·.onto ⟨[' '], rowStyle width height sh j⟩)).getD
          ⟨[' '], rowStyle width height sh j⟩ := by
  have hentry : (entriesInView width height sh)[j]? = sh.history.reverse[j]? :=
    List.getElem?_take_of_lt hj
  have hlength : (entriesInView width height sh).length =
      min (historyArea width height).inner.height sh.history.length := by
    rw [entriesInView, List.length_take, List.length_reverse]
  change Canvas.onto _ _ _ .blank = _
  rw [drawHistory_eq, Canvas.onto_append, Canvas.onto_cons, Canvas.apply_box_inner _ _ hi hj,
    onto_markOf _ _ hi, Canvas.onto_rowsIn hj, List.getElem?_map, hentry, hlength, ← rowStyle]
  cases sh.history.reverse[j]? <;> rfl

/-- The panel of the history shows the newest entries, one in each row, as far as there are rows and
cut at the border; the recalled entry stands out, if it is in view, and nothing else does. -/
def ShowsHistory (width height : ℕ) (sh : Shell) : Prop :=
  ∀ j < (historyArea width height).inner.height,
    ShowsText (ofShell width height sh).canvas (historyArea width height).inner j
      ((sh.history.reverse[j]?.map fun e =>
        Text.trim e.expression.toList ++ " = ".toList ++ [e.symbol] ++ "    [".toList ++
          e.rpn.toList ++ [']']).getD [])
      (rowStyle width height sh j)

lemma showsHistory (hgates : sh.mode ≠ .gates) (hhelp : sh.mode ≠ .help)
    (hsingle : ∀ e ∈ sh.history, e.Single) : ShowsHistory width height sh := by
  intro j hj
  refine showsText_of_listRow (fun ch hch => ?_) fun i hi => ?_
  · cases he : sh.history.reverse[j]? with
    | none =>
      rw [he] at hch
      cases hch
    | some e =>
      rw [he] at hch
      have hmem : e ∈ sh.history := List.mem_reverse.1 (List.mem_of_getElem? he)
      rw [(single_historyText (hsingle e hmem) ch hch).1]
      exact Nat.one_ne_zero
  · rw [cell_history hgates hhelp (by simp only [historyArea, Area.inner] at hj ⊢; omega)]
    exact cell_drawHistory hi hj

end Screen

/-! ### The last arrow -/

namespace Shell

variable {begun sh next : Shell} {p : Press} {a : Answers} {q : Press × Answers}
  {qs : List (Press × Answers)} {i : ℕ} {e : HistoryEntry}

/-- A key is an arrow up or down. -/
def IsArrow (p : Press) : Prop := p.key = .up ∨ p.key = .down

/-- The last arrow up or down of a run put the expression of the entry `i` into the line. -/
def PutByLastArrow (begun : Shell) (qs : List (Press × Answers)) (i : ℕ) (e : HistoryEntry) :
    Prop :=
  ∃ before q behind earlier put, qs = before ++ q :: behind ∧
    IsArrow q.1 ∧ (∀ q' ∈ behind, ¬ IsArrow q'.1) ∧
    begun.pressed before = some earlier ∧ (earlier.press q.1).resume q.2 = some put ∧
    put.recalled = some i ∧ put.history.reverse[i]? = some e ∧ put.input = e.expression.toList

lemma PutByLastArrow.behind (h : PutByLastArrow begun qs i e) (hq : ¬ IsArrow q.1) :
    PutByLastArrow begun (qs ++ [q]) i e := by
  obtain ⟨before, q₀, behind, earlier, put, rfl, harrow, hbehind, hput⟩ := h
  refine ⟨before, q₀, behind ++ [q], earlier, put, ?_, harrow, ?_, hput⟩
  · rw [List.append_assoc, List.cons_append]
  · exact List.forall_mem_append.2 ⟨hbehind, List.forall_mem_singleton.2 hq⟩

lemma recalled_submitSymbol (sh : Shell) :
    sh.submitSymbol.recalled = sh.recalled ∧ sh.submitSymbol.history = sh.history := by
  unfold submitSymbol
  split
  · exact ⟨rfl, rfl⟩
  · split <;> exact ⟨rfl, rfl⟩

/-- A key keeps what is recalled, and the history with it, or nothing is recalled any more, or the
key is an arrow while expressions are taken. -/
lemma Move.recalled (h : sh.Coherent) (hm : Move sh p a next) :
    next.recalled = none ∨ (next.recalled = sh.recalled ∧ next.history = sh.history) ∨
      sh.mode = .expression ∧ IsArrow p := by
  cases hm with
  | recallOlder hm hp => exact .inr (.inr ⟨hm, .inl hp⟩)
  | recallNewer hm hp => exact .inr (.inr ⟨hm, .inr hp⟩)
  | beginExpression | leaveExpression => exact .inl rfl
  | submitExpression =>
    obtain ⟨_, _, _, _, heq⟩ := sh.submitExpression_eq
    exact .inl (by rw [heq])
  | loaded hm =>
    -- The history is another one, but at the prompt nothing is recalled.
    exact .inl (h.recalled_none (by rw [hm]; nofun))
  | edit => exact .inr (.inl (by rw [Shell.edit, withLine_eq]; exact ⟨rfl, rfl⟩))
  | deleteBefore _ hn =>
    obtain ⟨l, -, rfl⟩ := Option.map_eq_some_iff.1 hn
    exact .inr (.inl (by rw [withLine_eq]; exact ⟨rfl, rfl⟩))
  | submitSymbol | symbolsUnsaved => exact .inr (.inl (recalled_submitSymbol sh))
  | saved =>
    obtain ⟨_, _, heq⟩ := sh.saved_eq (written sh.promptName a.written)
    exact .inr (.inl (by rw [heq]; exact ⟨rfl, rfl⟩))
  | _ => exact .inr (.inl ⟨rfl, rfl⟩)

/-- **What is recalled is what the last arrow put into the line**, whatever was typed since. -/
lemma Coherent.putByLastArrow (h : begun.Coherent) (hnone : begun.recalled = none)
    (hrun : begun.pressed qs = some sh) (hi : sh.recalled = some i) :
    ∃ e, sh.history.reverse[i]? = some e ∧ PutByLastArrow begun qs i e := by
  -- Only the last key can have been the arrow, or have left what an earlier one recalled.
  induction qs using List.reverseRecOn generalizing sh with
  | nil =>
    cases hrun
    rw [hnone] at hi
    cases hi
  | append_singleton qs q ih =>
    obtain ⟨mid, hmid, hcoherent, -⟩ := h.pressed qs
    rw [pressed_append hmid] at hrun
    obtain ⟨next, hnext, hlast⟩ := pressed_cons_eq_some.1 hrun
    cases hlast
    by_cases harrow : mid.mode = .expression ∧ IsArrow q.1
    · obtain ⟨put, hput, -, -, hshows⟩ := resume_arrow hcoherent harrow.1 harrow.2
      obtain rfl : put = sh := Option.some.inj (hput.symm.trans hnext)
      obtain ⟨e, he, hinput⟩ := hshows i hi
      exact ⟨e, he, qs, q, [], mid, put, rfl, harrow.2, List.forall_mem_nil _, hmid, hnext, hi, he,
        hinput⟩
    · have hmove := ((moves_press mid q.1 q.2).move hnext).recalled hcoherent
      obtain hforgot | ⟨hkept, hhistory⟩ | hagain := hmove
      · rw [hforgot] at hi
        cases hi
      · rw [hkept] at hi
        obtain ⟨e, he, hput⟩ := ih hmid hi
        have hmode := (hcoherent.recalled_lt i hi).1
        exact ⟨e, by rw [hhistory]; exact he, hput.behind fun hq => harrow ⟨hmode, hq⟩⟩
      · exact absurd hagain harrow

/-- **The history panel and the arrow keys agree.** After any run of keys, as long as neither the
gate table nor the help lies over the screen and the entries are of printable characters of one
column each, the panel shows the newest entries from the top on, on every screen of at least 70
columns and 11 rows. One row stands out if an entry is recalled and in view, and no other: that of
the very entry whose expression the last arrow up or down put into the line. -/
theorem history_panel_follows_recall (settings : Settings) (name status : Option String)
    (hrun : { start settings name with status }.pressed qs = some sh)
    (hgates : sh.mode ≠ .gates) (hhelp : sh.mode ≠ .help) (hsingle : ∀ e ∈ sh.history, e.Single)
    (width height : ℕ) (_ : 70 ≤ width) (_ : 11 ≤ height) :
    Screen.ShowsHistory width height sh ∧
      ∀ i, sh.recalled = some i → ∃ e, sh.history.reverse[i]? = some e ∧
        PutByLastArrow { start settings name with status } qs i e :=
  ⟨Screen.showsHistory hgates hhelp hsingle,
    fun _ hi => ((coherent_start settings name).status status).putByLastArrow rfl hrun hi⟩

/-- A mark that joins the character before it spells true. Two expressions are entered with it, and
two arrows lead to the older one: it stands out in the second row, and the mark is printed with the
character that it has joined. -/
theorem history_panel_follows_recall_twice :
    let keys := ([.char 'd', .char 'ः', .enter, .char 'F', .enter, .char 'e', .char 'ः', .enter,
      .char '!', .char 'ः', .enter, .up, .up] : List Key).map unread
    let panel := (Screen.historyArea 70 16).inner
    let row sh j := Cell.seen ((Screen.ofShell 70 16 sh).canvas.rowCells panel j)
    let s : Symbols := ⟨'ः', 'F', by decide, by decide, by decide⟩
    let printed (text : List (List Char)) (style : Style) (n : ℕ) : List Cell :=
      (text ++ List.replicate n [' ']).map fun t => ⟨t, style⟩
    ∃ sh, (start .standard none).pressed keys = some sh ∧
      sh.history = [⟨"ः", "ः", true, s⟩, ⟨"!ः", "ः !", false, s⟩] ∧ panel.height = 3 ∧
      row sh 0 = printed [['!', 'ः'], [' '], ['='], [' '], ['F'], [' '], [' '], [' '], [' '],
        ['[', 'ः'], [' '], ['!'], [']']] .plain 53 ∧
      row sh 1 = printed [['ः'], [' '], ['='], [' ', 'ः'], [' '], [' '], [' '], [' '],
        ['[', 'ः'], [']']] Screen.marked 56 ∧
      row sh 2 = printed [] .plain 68 ∧
      PutByLastArrow (start .standard none) keys 1 ⟨"ः", "ः", true, s⟩ := by
  intro keys panel row s printed
  obtain ⟨sh, hrun, hm, hrecalled, hhistory⟩ : ∃ sh, (start .standard none).pressed keys = some sh ∧
      sh.mode = .expression ∧ sh.recalled = some 1 ∧
      sh.history = [⟨"ः", "ः", true, s⟩, ⟨"!ः", "ः !", false, s⟩] := ⟨_, rfl, rfl, rfl, rfl⟩
  have hsingle : ∀ e ∈ sh.history, e.Single := by
    rw [hhistory]
    exact List.forall_mem_cons.2 ⟨Text.single_of_all (by decide +kernel),
      List.forall_mem_singleton.2 (Text.single_of_all (by decide +kernel))⟩
  obtain ⟨hshows, hput⟩ := history_panel_follows_recall .standard none none hrun (by rw [hm]; nofun)
    (by rw [hm]; nofun) hsingle 70 16 (Nat.le_refl 70) (by decide)
  have hfirst := (hshows 0 (by decide)).whole
  have hsecond := (hshows 1 (by decide)).whole
  have hthird := (hshows 2 (by decide)).whole
  simp only [Screen.rowStyle, hhistory, hrecalled] at hfirst hsecond hthird
  refine ⟨sh, hrun, hhistory, rfl, ?_, ?_, ?_, ?_⟩
  · exact (hfirst (by decide +kernel)).trans (by decide +kernel)
  · exact (hsecond (by decide +kernel)).trans (by decide +kernel)
  · exact (hthird (by decide +kernel)).trans (by decide +kernel)
  · obtain ⟨e, he, hput⟩ := hput 1 hrecalled
    rw [hhistory] at he
    cases he
    exact hput

end Shell

end BoolCalc
