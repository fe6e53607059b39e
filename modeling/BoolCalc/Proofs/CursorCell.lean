import BoolCalc.Proofs.Coherence
import BoolCalc.Proofs.Parts

/-!
# The cursor on the screen

The text of a line and the column of the cursor are found apart from each other: the text is drawn
cluster by cluster, and the column counts characters. They meet where the character at the cursor
is a cluster by itself. Then the cell under the cursor shows the character at which the next edit
happens; a mark that joins the character before it is drawn into another cell. A line that is longer
than its box leaves the cursor in the last column of the box.
-/

namespace BoolCalc

namespace Screen

variable {width height : ℕ} {sh : Shell} {a : Area} {n : ℕ}

/-- The box in which a line is typed. -/
def typingBox (width height : ℕ) : Mode → Area
  | .naming _ => statusArea width height
  | _ => inputArea width

/-- What stands before the line in its box. -/
def leadIn : Mode → List Char
  | .naming purpose => (namingPrompt purpose).toList
  | _ => []

/-- What stands behind the line in its box. -/
def leadOut : Mode → List Char
  | .naming purpose => (namingHint purpose).toList
  | _ => []

/-- The text of the box in which a line is typed. -/
def boxText (sh : Shell) : List Char := leadIn sh.mode ++ sh.line.chars ++ leadOut sh.mode

/-- How many characters stand before the cursor in its box. -/
def charsBefore (sh : Shell) : ℕ := (leadIn sh.mode).length + sh.line.cursor

/-- The modes in which a line is typed. -/
def IsTyping (m : Mode) : Prop :=
  m = .expression ∨ m = .trueSymbol ∨ m = .falseSymbol ∨ ∃ purpose, m = .naming purpose

lemma IsTyping.takesText_or {m : Mode} (hm : IsTyping m) :
    m.takesText ∨ ∃ purpose, m = .naming purpose := by
  obtain rfl | rfl | rfl | hm := hm
  · exact .inl rfl
  · exact .inl rfl
  · exact .inl rfl
  · exact .inr hm

/-- The upper line stands alone in the upper box. -/
lemma typing_of_takesText (width height : ℕ) {m : Mode} (hm : m.takesText) :
    m.takesName = false ∧ typingBox width height m = inputArea width ∧ leadIn m = [] ∧
      leadOut m = [] := by
  cases m with
  | expression | trueSymbol | falseSymbol => exact ⟨rfl, rfl, rfl, rfl⟩
  | menu | gates | help | naming => cases hm

/-! ### The column -/

lemma cursorColumn_inside (ha : 3 ≤ a.width) (n : ℕ) :
    a.x < cursorColumn a n ∧ cursorColumn a n + 1 < a.x + a.width := by
  rw [cursorColumn]
  omega

lemma cursorColumn_of_le (h : n ≤ a.width - 3) : cursorColumn a n = a.inner.x + n := by
  rw [cursorColumn, Nat.min_eq_left h, Area.inner]

lemma cursorColumn_of_lt (ha : 3 ≤ a.width) (h : a.width - 3 < n) :
    cursorColumn a n + 2 = a.x + a.width := by
  rw [cursorColumn]
  omega

lemma width_typingBox (width height : ℕ) (m : Mode) : (typingBox width height m).width = width := by
  cases m <;> rfl

lemma height_typingBox (width height : ℕ) (m : Mode) : (typingBox width height m).height = 3 := by
  cases m <;> rfl

/-- Where a line is typed the cursor stands behind what is before it, as far as the box goes. -/
lemma cursorOf_of_isTyping (h : sh.Coherent) (hm : IsTyping sh.mode) :
    cursorOf width height sh =
      some (cursorColumn (typingBox width height sh.mode) (charsBefore sh),
        (typingBox width height sh.mode).y + 1) := by
  have hcursor := h.cursor_le
  obtain hm | hm | hm | ⟨purpose, hm⟩ := hm
  all_goals
    simp only [Shell.line, hm] at hcursor
    simp [cursorOf, typingBox, charsBefore, leadIn, Shell.line, hm, Nat.min_eq_left hcursor,
      String.length_toList]

lemma cursorOf_of_not_isTyping (hm : ¬ IsTyping sh.mode) : cursorOf width height sh = none := by
  rw [cursorOf]
  cases hmode : sh.mode <;> simp [IsTyping, hmode] at hm ⊢

/-! ### The text -/

/-- **A character that is a cluster by itself stands in the column of its place** in the first row
of a box. -/
lemma text_boxed {text : List Char} (a : Area) (change : Style → Style) (title : List Char)
    (ha : 0 < a.inner.height) (hn : n < a.inner.width) (h : Text.AloneAt text n)
    (hcolumns : ∀ c, text[n]? = some c → Text.columnsOf c = 1) :
    (Canvas.cell ([.paint a change, .box a title] ++ paragraph a.inner [Glyph.ofText id text])
        (a.inner.x + n) (a.inner.y + 0)).text = [text[n]?.getD ' '] := by
  have hframe := showsRow_box (showsRow_paint (showsRow_nil a.inner 0) a change) ha title n hn
  have hrow := Glyph.paragraphRow_aloneAt id id hn h hcolumns
  rw [Canvas.cell_append_onto, paragraph, Canvas.onto_rowsIn ha]
  change Cell.text (((Glyph.paragraphRow id a.inner.width _)[n]?.map _).getD _) = _
  cases hc : text[n]? with
  | none =>
    rw [hc] at hrow
    rw [Option.map_eq_none_iff.1 hrow]
    exact hframe
  | some c =>
    rw [hc] at hrow
    obtain ⟨stroke, hstroke, htext⟩ := Option.map_eq_some_iff.1 hrow
    rw [hstroke]
    exact htext

/-- Where the upper line is typed it shows all of it. -/
lemma drawInput_of_takesText (width : ℕ) (hm : sh.mode.takesText) :
    ∃ title : String, drawInput width sh =
      [.paint (inputArea width) (Style.inked .green), .box (inputArea width) title.toList] ++
        paragraph (inputArea width).inner [Glyph.ofText id sh.input] := by
  cases hmode : sh.mode with
  | expression | trueSymbol | falseSymbol =>
    rw [drawInput, inputTitle, hmode]
    exact ⟨_, rfl⟩
  | menu | gates | help | naming =>
    rw [hmode] at hm
    cases hm

lemma toList_statusText {purpose : Purpose} (hm : sh.mode = .naming purpose) :
    (statusText sh).toList = boxText sh := by
  simp only [statusText, boxText, leadIn, leadOut, Shell.line, hm, String.toList_append,
    String.toList_ofList]

/-- The box in which a line is typed is drawn with its text, and nothing lies over it. -/
lemma cell_typingBox (width : ℕ) (hm : IsTyping sh.mode) (hheight : 11 ≤ height) :
    ∃ change title, ∀ x,
      (ofShell width height sh).canvas.cell x ((typingBox width height sh.mode).y + 1) =
        Canvas.cell ([.paint (typingBox width height sh.mode) change,
          .box (typingBox width height sh.mode) title] ++
            paragraph (typingBox width height sh.mode).inner [Glyph.ofText id (boxText sh)])
          x ((typingBox width height sh.mode).y + 1) := by
  obtain ht | ⟨purpose, hm⟩ := hm.takesText_or
  · obtain ⟨hname, hbox, hin, hout⟩ := typing_of_takesText width height ht
    obtain ⟨title, hdraw⟩ := drawInput_of_takesText width ht
    have hgates : sh.mode ≠ .gates := fun h => absurd (h ▸ ht) nofun
    have hhelp : sh.mode ≠ .help := fun h => absurd (h ▸ ht) nofun
    have hrow : 1 ≤ (inputArea width).y + 1 ∧ (inputArea width).y + 1 < 4 := by simp [inputArea]
    refine ⟨Style.inked .green, title.toList, fun x => ?_⟩
    rw [boxText, hbox, hin, hout, Shell.line_of_takesName_false hname, List.nil_append,
      List.append_nil, cell_input hgates hhelp hheight hrow, hdraw]
  · refine ⟨Style.inked (statusColour sh.mode), "Status".toList, fun x => ?_⟩
    rw [← toList_statusText hm]
    simp only [typingBox, hm]
    rw [cell_status (by rw [hm]; nofun) (by rw [hm]; nofun) hheight
      (by simp only [statusArea]; omega), drawStatus, hm]

lemma getElem?_leadOut_zero (m : Mode) : (leadOut m)[0]?.getD ' ' = ' ' := by
  cases m with
  | naming purpose => cases purpose <;> decide +kernel
  | menu | expression | trueSymbol | falseSymbol | gates | help => rfl

/-- The character at the cursor is the one that its line has there. -/
lemma getD_getElem?_boxText (hn : sh.line.cursor ≤ sh.line.chars.length) :
    (boxText sh)[charsBefore sh]?.getD ' ' = sh.line.chars[sh.line.cursor]?.getD ' ' := by
  rw [boxText, charsBefore, List.append_assoc, List.getElem?_append_right (Nat.le_add_right _ _),
    Nat.add_sub_cancel_left]
  obtain hlt | hend := Nat.lt_or_eq_of_le hn
  · rw [List.getElem?_append_left hlt]
  · rw [hend, List.getElem?_append_right (Nat.le_refl _), Nat.sub_self, getElem?_leadOut_zero,
      List.getElem?_length]
    rfl

/-- As long as the box has a column for it, the cell under the cursor shows the character at the
cursor, if that is a cluster by itself. -/
lemma text_at_cursor (h : sh.Coherent) (hm : IsTyping sh.mode)
    (hsingle : ∀ c ∈ sh.line.chars, Text.Single c) (hwidth : 3 ≤ width) (hheight : 11 ≤ height)
    (hroom : charsBefore sh ≤ width - 3) (halone : Text.AloneAt (boxText sh) (charsBefore sh)) :
    ((ofShell width height sh).canvas.cell
        (cursorColumn (typingBox width height sh.mode) (charsBefore sh))
        ((typingBox width height sh.mode).y + 1)).text =
      [sh.line.chars[sh.line.cursor]?.getD ' '] := by
  have hplace := getD_getElem?_boxText h.line_cursor_le
  have hcolumns : ∀ c, (boxText sh)[charsBefore sh]? = some c → Text.columnsOf c = 1 := by
    intro c hc
    rw [hc, Option.getD_some] at hplace
    cases hchar : sh.line.chars[sh.line.cursor]? with
    | none =>
      rw [hplace, hchar]
      decide +kernel
    | some d =>
      rw [hplace, hchar]
      exact (hsingle d (List.mem_of_getElem? hchar)).1
  obtain ⟨change, title, hcell⟩ := cell_typingBox width hm hheight
  have hbox := width_typingBox width height sh.mode
  have hinside : charsBefore sh < (typingBox width height sh.mode).inner.width := by
    simp only [Area.inner]
    omega
  rw [hcell, cursorColumn_of_le (by rwa [hbox]), ← hplace]
  exact text_boxed _ change title (by simp [Area.inner, height_typingBox]) hinside halone hcolumns

end Screen

namespace Shell

/-- **The cursor on the screen marks the place of the cursor in its line.** For every shell that
keys lead to, a cursor is shown in the modes in which a line is typed, and in no other. It is inside
the border of the box of that line. As long as the box has a column for it, the cell under it shows
the character of the line at the cursor, or a blank behind the last one, if the characters of the
line take one column each and that at the cursor is a cluster by itself; from then on it stays in
the last column. -/
theorem cursor_marks_place {sh : Shell} (h : sh.Reached) (width height : ℕ) (hwidth : 70 ≤ width)
    (hheight : 11 ≤ height) :
    let screen := Screen.ofShell width height sh
    let box := Screen.typingBox width height sh.mode
    (screen.cursor.isSome ↔ Screen.IsTyping sh.mode) ∧
      ∀ x y, screen.cursor = some (x, y) →
        (box.x < x ∧ x + 1 < box.x + box.width) ∧ (box.y < y ∧ y + 1 < box.y + box.height) ∧
        (Screen.charsBefore sh ≤ box.width - 3 → (∀ c ∈ sh.line.chars, Text.Single c) →
          Text.AloneAt (Screen.boxText sh) (Screen.charsBefore sh) →
          (screen.canvas.cell x y).text = [sh.line.chars[sh.line.cursor]?.getD ' ']) ∧
        (box.width - 3 < Screen.charsBefore sh → x + 2 = box.x + box.width) := by
  intro screen box
  have hbox : box.width = width := Screen.width_typingBox width height sh.mode
  have hrows : box.height = 3 := Screen.height_typingBox width height sh.mode
  by_cases hm : Screen.IsTyping sh.mode
  · have hcursor : screen.cursor = some _ := Screen.cursorOf_of_isTyping h.coherent hm
    refine ⟨by simp [hcursor, hm], fun x y hxy => ?_⟩
    obtain ⟨rfl, rfl⟩ := Prod.mk.inj (Option.some.inj (hcursor.symm.trans hxy))
    refine ⟨Screen.cursorColumn_inside (by omega) _, ⟨Nat.lt_succ_self box.y, ?_⟩,
      fun hroom hsingle halone => ?_, Screen.cursorColumn_of_lt (by omega)⟩
    · rw [hrows]
      exact Nat.lt_succ_self (box.y + 2)
    · exact Screen.text_at_cursor h.coherent hm hsingle (by omega) hheight
        (by rwa [hbox] at hroom) halone
  · have hnone : screen.cursor = none := Screen.cursorOf_of_not_isTyping hm
    refine ⟨by simp [hnone, hm], fun x y hxy => ?_⟩
    rw [hnone] at hxy
    cases hxy

/-- A prompt opens with the name of a session, a mark joins its last letter, a letter follows, and
the cursor goes back by one: it stands under the last letter. -/
theorem cursor_marks_place_in_prompt :
    let keys := ((⟨.char 's', true⟩ : Press), (unread .other).2) ::
      ([.char 'ः', .char 'x', .left] : List Key).map unread
    ∃ sh, (start .standard none).pressed keys = some sh ∧
      sh.line = ⟨"session.booltermःx".toList, 17⟩ ∧
      Screen.cursorOf 70 11 sh = some (35, 9) ∧
      ((Screen.ofShell 70 11 sh).canvas.cell 35 9).text = ['x'] := by
  intro keys
  obtain ⟨sh, hrun, hmode, hline⟩ : ∃ sh, (start .standard none).pressed keys = some sh ∧
      sh.mode = .naming .saveSession ∧ sh.line = ⟨"session.booltermःx".toList, 17⟩ :=
    ⟨_, rfl, rfl, rfl⟩
  have hsingle : ∀ c ∈ sh.line.chars, Text.Single c := by
    rw [hline]
    exact Text.single_of_all (by decide +kernel)
  have hreached : sh.Reached := ⟨.standard, none, none, keys, hrun⟩
  obtain ⟨-, hplace⟩ := cursor_marks_place hreached 70 11 (Nat.le_refl 70) (Nat.le_refl 11)
  have hbefore : Screen.charsBefore sh = 34 := by
    rw [Screen.charsBefore, hmode, hline]
    decide +kernel
  have halone : Text.AloneAt (Screen.boxText sh) (Screen.charsBefore sh) := by
    rw [hbefore, Screen.boxText, hmode, hline]
    exact ⟨"Save session as: session.boolter".toList.map ([·]) ++ [['m', 'ः']],
      "x (Enter to save, Esc to cancel)".toList.map ([·]), by decide +kernel, by decide +kernel,
      by decide +kernel, by decide +kernel⟩
  have hcursor : Screen.cursorOf 70 11 sh = some (35, 9) := by
    rw [Screen.cursorOf_of_isTyping hreached.coherent (.inr (.inr (.inr ⟨_, hmode⟩))), hbefore,
      hmode]
    rfl
  obtain ⟨-, -, htext, -⟩ := hplace 35 9 hcursor
  refine ⟨sh, hrun, hline, hcursor, ?_⟩
  rw [htext (by rw [hbefore, Screen.width_typingBox]; decide) hsingle halone, hline]
  rfl

/-- A mark is typed behind an exclamation mark, and the cursor goes back to it. All characters take
one column, but the two are one cluster in the cell of the first, and the cell under the cursor is
blank. -/
theorem cursor_beside_joined_mark :
    ∃ sh, (start .standard none).pressed
        (([.char 'e', .char '!', .char 'ः', .left] : List Key).map unread) = some sh ∧
      (∀ c ∈ sh.input ++ sh.nameInput, Text.Single c) ∧
      Screen.charsBefore sh ≤ (Screen.typingBox 70 11 sh.mode).width - 3 ∧
      (Screen.ofShell 70 11 sh).cursor = some (2, 2) ∧
      sh.line.chars[sh.line.cursor]? = some 'ः' ∧
      ((Screen.ofShell 70 11 sh).canvas.cell 2 2).text = [' '] := by
  refine ⟨_, rfl, Text.single_of_all (by decide +kernel), by decide, rfl, rfl, ?_⟩
  rw [Screen.cell_input (by decide) (by decide) (by decide) (by decide)]
  decide +kernel

end Shell

end BoolCalc
