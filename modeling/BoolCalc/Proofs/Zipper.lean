import BoolCalc.Proofs.Coherence

/-!
# The line that is edited, as a zipper

The shell keeps a line as one text and the number of characters before the cursor. The same line
can be kept as a zipper, the characters before the cursor and those behind it, and then a key moves
or drops at most one character where the two parts meet. Both ways agree after every run of keys
that edit, and such keys change nothing but the line.
-/

namespace BoolCalc

/-- The keys that edit a line. -/
inductive LineKey where
  | char (c : Char)
  | backspace
  | delete
  | left
  | right
  | home
  | toEnd
deriving DecidableEq, Repr

/-- The key itself. -/
def LineKey.key : LineKey → Key
  | .char c => .char c
  | .backspace => .backspace
  | .delete => .delete
  | .left => .left
  | .right => .right
  | .home => .home
  | .toEnd => .toEnd

/-- A line in two parts, each in reading order. -/
structure Zipper where
  before : List Char
  behind : List Char
deriving DecidableEq, Repr

namespace Zipper

/-- A line, taken apart at its cursor. -/
def ofLine (l : Line) : Zipper := ⟨l.chars.take l.cursor, l.chars.drop l.cursor⟩

/-- The zipper after a key. -/
def edit (z : Zipper) : LineKey → Zipper
  | .char c => ⟨z.before ++ [c], z.behind⟩
  | .backspace => ⟨z.before.dropLast, z.behind⟩
  | .delete => ⟨z.before, z.behind.tail⟩
  | .left =>
    match z.before.getLast? with
    | none => z
    | some c => ⟨z.before.dropLast, c :: z.behind⟩
  | .right =>
    match z.behind with
    | [] => z
    | c :: cs => ⟨z.before ++ [c], cs⟩
  | .home => ⟨[], z.before ++ z.behind⟩
  | .toEnd => ⟨z.before ++ z.behind, []⟩

/-- The zipper after a run of keys. -/
def editAll (z : Zipper) (ks : List LineKey) : Zipper := ks.foldl edit z

/-- The line of a zipper. -/
def line (z : Zipper) : Line := ⟨z.before ++ z.behind, z.before.length⟩

variable (z : Zipper)

lemma line_ofLine {l : Line} (hl : l.cursor ≤ l.chars.length) : (ofLine l).line = l := by
  have hbefore : (l.chars.take l.cursor).length = l.cursor := List.length_take_of_le hl
  rw [line, ofLine, List.take_append_drop, hbefore]

/-! ### One key -/

lemma insert_line (c : Char) : z.line.insert c = (z.edit (.char c)).line := by
  simp [line, Line.insert, edit]

lemma deleteBefore?_line : z.line.deleteBefore? = some (z.edit .backspace).line := by
  obtain ⟨before, behind⟩ := z
  rcases List.eq_nil_or_concat' before with rfl | ⟨init, c, rfl⟩
  · rfl
  · have hlength : (init ++ [c]).length = init.length + 1 := by simp
    have hrest : (init ++ [c] ++ behind).eraseIdx init.length = init ++ behind := by
      rw [List.append_assoc, List.eraseIdx_append_of_length_le (Nat.le_refl _), Nat.sub_self]
      rfl
    simp only [line, Line.deleteBefore?, edit, hlength, List.dropLast_concat, hrest]
    rw [if_pos (by simp)]

lemma deleteAt_line : z.line.deleteAt = (z.edit .delete).line := by
  have hrest : (z.before ++ z.behind).eraseIdx z.before.length = z.before ++ z.behind.tail := by
    rw [List.eraseIdx_append_of_length_le (Nat.le_refl _), Nat.sub_self, List.eraseIdx_zero]
  simp only [line, Line.deleteAt, edit, hrest]

lemma left_line : z.line.left = (z.edit .left).line := by
  obtain ⟨before, behind⟩ := z
  rcases List.eq_nil_or_concat' before with rfl | ⟨init, c, rfl⟩
  · rfl
  · simp [line, Line.left, edit]

lemma right_line : z.line.right = (z.edit .right).line := by
  obtain ⟨before, behind⟩ := z
  cases behind with
  | nil => simp [line, Line.right, edit]
  | cons c cs => simp [line, Line.right, edit]

lemma home_line : z.line.home = (z.edit .home).line := by
  simp [line, Line.home, edit]

lemma toEnd_line : z.line.toEnd = (z.edit .toEnd).line := by
  simp [line, Line.toEnd, edit]

end Zipper

namespace Shell

variable {sh : Shell} {z : Zipper}

/-- **A key does to the line what it does to the zipper.** -/
lemma editKey_lineKey (hline : sh.line = z.line) (k : LineKey) :
    sh.editKey k.key = .settle (sh.withLine (z.edit k).line) := by
  have hedit {f : Line → Line} (hf : f z.line = (z.edit k).line) :
      Reaction.settle (sh.edit f) = .settle (sh.withLine (z.edit k).line) := by
    rw [edit, hline, hf]
  cases k with
  | char c => exact hedit (z.insert_line c)
  | backspace =>
    have hdelete : sh.deleteBefore? = some (sh.withLine (z.edit .backspace).line) := by
      rw [deleteBefore?, hline, z.deleteBefore?_line]
      rfl
    simp only [LineKey.key, editKey, hdelete]
  | delete => exact hedit z.deleteAt_line
  | left => exact hedit z.left_line
  | right => exact hedit z.right_line
  | home => exact hedit z.home_line
  | toEnd => exact hedit z.toEnd_line

/-- Where a line is edited, no key that edits has another meaning. -/
lemma press_lineKey (hm : sh.mode.takesText ∨ sh.mode.takesName) (k : LineKey) (control : Bool) :
    sh.press ⟨k.key, control⟩ = sh.editKey k.key := by
  cases hmode : sh.mode with
  | menu | gates | help =>
    rw [hmode] at hm
    simp [Mode.takesText, Mode.takesName] at hm
  | expression => cases k <;> simp only [press, hmode, LineKey.key, expressionKey]
  | trueSymbol | falseSymbol => cases k <;> simp only [press, hmode, LineKey.key, symbolKey]
  | naming purpose => cases k <;> simp only [press, hmode, LineKey.key, namingKey]

/-! ### Runs of keys -/

lemma mode_withLine (sh : Shell) (l : Line) : (sh.withLine l).mode = sh.mode := by
  rw [withLine_eq]

lemma withLine_withLine (sh : Shell) (l l' : Line) :
    (sh.withLine l).withLine l' = sh.withLine l' := by
  simp only [withLine_eq]
  cases sh.mode.takesName <;> rfl

lemma withLine_line (sh : Shell) : sh.withLine sh.line = sh := by
  obtain ⟨_, mode, _, _, _, _, _, _, _, _, _, _, _, _⟩ := sh
  cases mode <;> rfl

/-- What a run of keys does, from any zipper of the line on. -/
lemma pressAll_lineKeys (hm : sh.mode.takesText ∨ sh.mode.takesName) (hline : sh.line = z.line)
    (ks : List (LineKey × Bool)) (st : Store) :
    pressAll sh st (ks.map fun k => ⟨k.1.key, k.2⟩) =
      some (sh.withLine (z.editAll (ks.map Prod.fst)).line, st) := by
  induction ks generalizing sh z with
  | nil =>
    have hsame : sh.withLine z.line = sh := by rw [← hline, withLine_line]
    rw [List.map_nil, pressAll, List.map_nil, Zipper.editAll, List.foldl_nil, hsame]
  | cons k ks ih =>
    have hpress : (sh.press ⟨k.1.key, k.2⟩).carryOut st =
        some (sh.withLine (z.edit k.1).line, st) := by
      rw [press_lineKey hm, editKey_lineKey hline]
      rfl
    have hm' : (sh.withLine (z.edit k.1).line).mode.takesText ∨
        (sh.withLine (z.edit k.1).line).mode.takesName := by rwa [mode_withLine]
    have hrest := ih hm' (line_withLine sh (z.edit k.1).line)
    rw [withLine_withLine] at hrest
    rw [List.map_cons, pressAll, hpress]
    exact hrest

lemma takesName_of_takesText {m : Mode} (ht : m.takesText = true) : m.takesName = false := by
  cases m with
  | naming purpose => cases ht
  | _ => rfl

/-- **A line is edited like a zipper.** In every state that keys lead to in which a line is edited,
let the shell take any run of keys that edit, each with or without the control key, and the zipper
of the line the same keys. Then the line is still that of the zipper: its text is what stands before
and behind, and its cursor counts what stands before. All else is as it was, the other line, the
mode and what was recalled among it, and no file has changed. -/
theorem line_edited_like_zipper {sh : Shell} (hr : sh.Reached)
    (hm : sh.mode.takesText ∨ sh.mode.takesName) (ks : List (LineKey × Bool)) (st : Store) :
    (Zipper.ofLine sh.line).line = sh.line ∧
    ∃ sh', pressAll sh st (ks.map fun k => ⟨k.1.key, k.2⟩) = some (sh', st) ∧
      sh'.line = ((Zipper.ofLine sh.line).editAll (ks.map Prod.fst)).line ∧
      sh' = sh.withLine sh'.line ∧ sh'.mode = sh.mode ∧ sh'.recalled = sh.recalled ∧
      (sh.mode.takesText → sh'.line = ⟨sh'.input, sh'.cursor⟩ ∧ sh'.nameInput = sh.nameInput) ∧
      (sh.mode.takesName → sh'.line = ⟨sh'.nameInput, sh'.cursor⟩ ∧ sh'.input = sh.input) := by
  have hzipper : (Zipper.ofLine sh.line).line = sh.line :=
    Zipper.line_ofLine hr.coherent.line_cursor_le
  have hline (l : Line) : (sh.withLine l).line = l := line_withLine sh l
  refine ⟨hzipper, _, pressAll_lineKeys hm hzipper.symm ks st, hline _, ?_, ?_, ?_, ?_, ?_⟩
  · rw [hline]
  · rw [mode_withLine]
  · rw [withLine_eq]
  · intro ht
    rw [hline, withLine_eq]
    simp [takesName_of_takesText ht]
  · intro hn
    rw [hline, withLine_eq]
    simp [hn]

/-- A name is typed into in the middle, loses characters on both sides of the cursor, and the cursor
is moved beyond both ends. -/
theorem line_edited_like_zipper_name :
    let sh := (start .standard none).beginNaming .exportHistory
    let ks : List (LineKey × Bool) :=
      [(.home, false), (.left, false), (.right, true), (.char 'é', false), (.delete, false),
        (.toEnd, false), (.right, false), (.backspace, false)]
    sh.mode.takesName = true ∧
      ∃ sh', pressAll sh .empty (ks.map fun k => ⟨k.1.key, k.2⟩) = some (sh', .empty) ∧
        sh'.line = ⟨"héstory.cs".toList, 10⟩ ∧ sh'.input = [] := by
  intro sh ks
  have hreached : sh.Reached :=
    ⟨.standard, none, none, [(⟨.char 'e', true⟩, (unread .other).2)], rfl⟩
  obtain ⟨-, sh', hrun, hline, -, -, -, -, hname⟩ :=
    line_edited_like_zipper hreached (.inr rfl) ks .empty
  exact ⟨rfl, sh', hrun, hline.trans rfl, (hname rfl).2⟩

end Shell

end BoolCalc
