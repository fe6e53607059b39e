import Mathlib.Data.List.Basic
import BoolCalc.Proofs.Runs

/-!
# What keys keep in order

The modes of the shell share one cursor and two lines. A shell that is driven by keys alone keeps
them in order: the cursor stays within the line that is edited, a line is empty where it is not
asked for, and nothing of a recall or of a half-finished definition outlives its mode. So the
character before the cursor is there whenever it is to be deleted, and no key gets the shell stuck.
-/

namespace BoolCalc

/-- An edit leaves the cursor in the line or right behind it. -/
lemma Line.Edit.cursor_le {f : Line → Line} (hf : Edit f) {l : Line}
    (h : l.cursor ≤ l.chars.length) : (f l).cursor ≤ (f l).chars.length := by
  cases hf with
  | insert c =>
    simp only [Line.insert, List.length_append, List.length_take, List.length_cons,
      List.length_drop]
    omega
  | deleteAt =>
    simp only [Line.deleteAt, List.length_eraseIdx]
    split <;> omega
  | left =>
    simp only [Line.left]
    omega
  | right =>
    rw [Line.right]
    split
    · assumption
    · exact h
  | home => exact Nat.zero_le _
  | toEnd => exact Nat.le_refl _

/-- A line whose cursor stands in it or right behind it has a character before the cursor, unless
the cursor is at the start. -/
lemma Line.exists_deleteBefore? {l : Line} (h : l.cursor ≤ l.chars.length) :
    ∃ l', l.deleteBefore? = some l' ∧ l'.cursor ≤ l'.chars.length := by
  unfold Line.deleteBefore?
  split
  · exact ⟨l, rfl, h⟩
  · rename_i n hn
    have hlt : n < l.chars.length := by omega
    have hlen : (l.chars.eraseIdx n).length = l.chars.length - 1 := by
      rw [List.length_eraseIdx, if_pos hlt]
    refine ⟨⟨l.chars.eraseIdx n, n⟩, if_pos hlt, ?_⟩
    rw [hlen]
    exact Nat.le_sub_one_of_lt hlt

namespace Shell

variable {sh sh' : Shell} {p : Press} {a : Answers}

/-- The shell is in order. -/
structure Coherent (sh : Shell) : Prop where
  /-- The cursor stands in the line that is edited or right behind it. -/
  cursor_le : sh.cursor ≤ sh.line.chars.length
  nameInput_nil : sh.mode.takesName = false → sh.nameInput = []
  input_nil : sh.mode.takesText = false → sh.input = []
  cursor_zero : sh.mode.takesText = false → sh.mode.takesName = false → sh.cursor = 0
  recalled_lt : ∀ i, sh.recalled = some i → sh.mode = .expression ∧ i < sh.history.length
  pending_isSome : sh.pending.isSome = true ↔ sh.mode = .falseSymbol
  /-- The symbol for false is the one in force until it is asked for. -/
  pending_forFalse : ∀ s, sh.pending = some s → s.forFalse = sh.symbols.forFalse

lemma Coherent.recalled_none (h : sh.Coherent) (hm : sh.mode ≠ .expression) :
    sh.recalled = none := by
  cases hr : sh.recalled with
  | none => rfl
  | some i => exact absurd (h.recalled_lt i hr).1 hm

lemma Coherent.pending_none (h : sh.Coherent) (hm : sh.mode ≠ .falseSymbol) :
    sh.pending = none := by
  rw [← Option.not_isSome_iff_eq_none]
  exact fun hp => hm (h.pending_isSome.1 hp)

/-! ### The line that is edited -/

lemma line_of_takesName_false (h : sh.mode.takesName = false) :
    sh.line = ⟨sh.input, sh.cursor⟩ := by
  unfold line
  split
  · rename_i hm
    rw [hm] at h
    cases h
  · rfl

lemma cursor_line (sh : Shell) : sh.line.cursor = sh.cursor := by
  unfold line
  split <;> rfl

lemma line_withLine (sh : Shell) (l : Line) : (sh.withLine l).line = l := by
  cases hm : sh.mode <;> simp [withLine, line, hm]

/-- The line that is edited can be exchanged, as long as the cursor stays in it. -/
lemma Coherent.withLine (h : sh.Coherent) (hm : sh.mode.takesText ∨ sh.mode.takesName) {l : Line}
    (hl : l.cursor ≤ l.chars.length) : (sh.withLine l).Coherent where
  cursor_le := by
    rw [line_withLine, withLine_eq]
    exact hl
  nameInput_nil := by
    rw [withLine_eq]
    intro hn
    simp only at hn ⊢
    rw [hn]
    exact h.nameInput_nil hn
  input_nil := by
    rw [withLine_eq]
    intro ht
    simp only at ht ⊢
    rw [ht] at hm
    rw [if_pos (by simpa using hm)]
    exact h.input_nil ht
  cursor_zero := by
    rw [withLine_eq]
    intro ht hn
    simp only at ht hn
    rw [ht, hn] at hm
    simp at hm
  recalled_lt := by
    rw [withLine_eq]
    exact h.recalled_lt
  pending_isSome := by
    rw [withLine_eq]
    exact h.pending_isSome
  pending_forFalse := by
    rw [withLine_eq]
    exact h.pending_forFalse

lemma Coherent.line_cursor_le (h : sh.Coherent) : sh.line.cursor ≤ sh.line.chars.length := by
  rw [cursor_line]
  exact h.cursor_le

lemma Coherent.deleteBefore (h : sh.Coherent) (hm : sh.mode.takesText ∨ sh.mode.takesName)
    (hd : sh.deleteBefore? = some sh') : sh'.Coherent := by
  obtain ⟨l, hl, hcursor⟩ := Line.exists_deleteBefore? h.line_cursor_le
  rw [deleteBefore?, hl] at hd
  cases hd
  exact h.withLine hm hcursor

lemma Coherent.edit (h : sh.Coherent) (hm : sh.mode.takesText ∨ sh.mode.takesName)
    {f : Line → Line} (hf : Line.Edit f) : (sh.edit f).Coherent :=
  h.withLine hm (hf.cursor_le h.line_cursor_le)

/-! ### Keys that open and close -/

/-- Nothing is recalled and nothing is pending. -/
lemma coherent_of_settled (hcursor : sh.cursor ≤ sh.line.chars.length)
    (hname : sh.mode.takesName = false → sh.nameInput = [])
    (hinput : sh.mode.takesText = false → sh.input = [])
    (hzero : sh.mode.takesText = false → sh.mode.takesName = false → sh.cursor = 0)
    (hrecalled : sh.recalled = none) (hpending : sh.pending = none) (hm : sh.mode ≠ .falseSymbol) :
    sh.Coherent where
  cursor_le := hcursor
  nameInput_nil := hname
  input_nil := hinput
  cursor_zero := hzero
  recalled_lt i hi := by
    rw [hrecalled] at hi
    cases hi
  pending_isSome := by
    rw [hpending]
    exact ⟨fun h => (by cases h), fun h => absurd h hm⟩
  pending_forFalse s hs := by
    rw [hpending] at hs
    cases hs

lemma coherent_start (settings : Settings) (name : Option String) :
    (start settings name).Coherent :=
  coherent_of_settled (Nat.le_refl _) (fun _ => rfl) (fun _ => rfl) (fun _ _ => rfl) rfl rfl nofun

lemma Coherent.status (h : sh.Coherent) (text : Option String) :
    { sh with status := text }.Coherent :=
  ⟨h.cursor_le, h.nameInput_nil, h.input_nil, h.cursor_zero, h.recalled_lt, h.pending_isSome,
    h.pending_forFalse⟩

/-- The modes in which nothing is typed. -/
lemma idle_of_view {m : Mode} (hm : m = .menu ∨ m = .gates ∨ m = .help) :
    m.takesText = false ∧ m.takesName = false ∧ m ≠ .expression ∧ m ≠ .falseSymbol := by
  rcases hm with rfl | rfl | rfl <;> decide

lemma typing_of_expression {m : Mode} (hm : m = .expression) :
    m.takesText = true ∧ m.takesName = false ∧ m ≠ .falseSymbol := by
  rw [hm]
  decide

lemma typing_of_symbol {m : Mode} (hm : m = .trueSymbol ∨ m = .falseSymbol) :
    m.takesText = true ∧ m.takesName = false ∧ m ≠ .expression := by
  rcases hm with rfl | rfl <;> decide

/-- From one view to another nothing is typed, recalled or pending. -/
lemma Coherent.view (h : sh.Coherent) (hm : sh.mode = .menu ∨ sh.mode = .gates ∨ sh.mode = .help)
    {m : Mode} (hm' : m = .menu ∨ m = .gates ∨ m = .help) (n : ℕ) (text : Option String) :
    { sh with mode := m, helpScroll := n, status := text }.Coherent := by
  obtain ⟨ht, hn, he, hf⟩ := idle_of_view hm
  obtain ⟨-, -, -, hf'⟩ := idle_of_view hm'
  have hcursor := h.cursor_zero ht hn
  exact coherent_of_settled (Nat.le_trans (Nat.le_of_eq hcursor) (Nat.zero_le _))
    (fun _ => h.nameInput_nil hn) (fun _ => h.input_nil ht) (fun _ _ => hcursor)
    (h.recalled_none he) (h.pending_none hf) hf'

/-- The line for expressions and symbols is emptied, and nothing is recalled or pending. -/
lemma Coherent.cleared (h : sh.Coherent) (hn : sh.mode.takesName = false)
    (hname : sh'.nameInput = sh.nameInput) (hinput : sh'.input = []) (hcursor : sh'.cursor = 0)
    (hrecalled : sh'.recalled = none) (hpending : sh'.pending = none)
    (hm : sh'.mode ≠ .falseSymbol) : sh'.Coherent :=
  coherent_of_settled (Nat.le_trans (Nat.le_of_eq hcursor) (Nat.zero_le _))
    (fun _ => hname.trans (h.nameInput_nil hn)) (fun _ => hinput) (fun _ _ => hcursor) hrecalled
    hpending hm

lemma Coherent.beginExpression (h : sh.Coherent) (hm : sh.mode = .menu) :
    sh.beginExpression.Coherent := by
  obtain ⟨-, hn, -, hf⟩ := idle_of_view (.inl hm)
  exact h.cleared hn rfl rfl rfl rfl (h.pending_none hf) nofun

lemma Coherent.beginSymbols (h : sh.Coherent) (hm : sh.mode = .menu) :
    sh.beginSymbols.Coherent := by
  obtain ⟨-, hn, he, -⟩ := idle_of_view (.inl hm)
  exact h.cleared hn rfl rfl rfl (h.recalled_none he) rfl nofun

lemma Coherent.beginNaming (h : sh.Coherent) (hm : sh.mode = .menu ∨ sh.mode = .gates)
    (purpose : Purpose) : (sh.beginNaming purpose).Coherent := by
  obtain ⟨ht, -, he, hf⟩ := idle_of_view (m := sh.mode) (by tauto)
  exact coherent_of_settled (Nat.le_refl _) nofun (fun _ => h.input_nil ht) nofun
    (h.recalled_none he) (h.pending_none hf) nofun

lemma Coherent.leaveExpression (h : sh.Coherent) (hm : sh.mode = .expression) :
    sh.leaveExpression.Coherent := by
  obtain ⟨-, hn, hf⟩ := typing_of_expression hm
  exact h.cleared hn rfl rfl rfl rfl (h.pending_none hf) nofun

lemma Coherent.leaveSymbols (h : sh.Coherent)
    (hm : sh.mode = .trueSymbol ∨ sh.mode = .falseSymbol) : sh.leaveSymbols.Coherent := by
  obtain ⟨-, hn, he⟩ := typing_of_symbol hm
  exact h.cleared hn rfl rfl rfl (h.recalled_none he) rfl nofun

/-- A prompt for a name leads back to the menu, whatever its outcome changes besides. -/
lemma Coherent.leaveNaming {purpose : Purpose} (h : sh.Coherent) (hm : sh.mode = .naming purpose)
    (hinput : sh'.input = sh.input) (hrecalled : sh'.recalled = sh.recalled)
    (hpending : sh'.pending = sh.pending) : sh'.leaveNaming.Coherent := by
  have ht : sh.mode.takesText = false := by rw [hm]; rfl
  exact coherent_of_settled (Nat.zero_le _) (fun _ => rfl)
    (fun _ => hinput.trans (h.input_nil ht)) (fun _ _ => rfl)
    (hrecalled.trans (h.recalled_none (by rw [hm]; nofun)))
    (hpending.trans (h.pending_none (by rw [hm]; nofun))) nofun

/-! ### Keys that submit -/

lemma Coherent.submitExpression (h : sh.Coherent) (hm : sh.mode = .expression) :
    sh.submitExpression.Coherent := by
  obtain ⟨-, hn, hf⟩ := typing_of_expression hm
  obtain ⟨_, _, _, _, heq⟩ := sh.submitExpression_eq
  rw [heq]
  exact h.cleared hn rfl rfl rfl rfl (h.pending_none hf) hf

lemma Coherent.recallEntry (h : sh.Coherent) (hm : sh.mode = .expression) (i : ℕ) :
    (sh.recallEntry i).Coherent := by
  unfold Shell.recallEntry
  split
  · exact h
  · rename_i e he
    have hi : i < sh.history.length := by
      have := (List.getElem?_eq_some_iff.1 he).1
      rwa [List.length_reverse] at this
    obtain ⟨ht, hn, -⟩ := typing_of_expression hm
    refine ⟨?_, h.nameInput_nil, ?_, ?_, ?_, h.pending_isSome, h.pending_forFalse⟩
    · refine Nat.le_of_eq ?_
      rw [line_of_takesName_false (by exact hn)]
    · exact fun hf => absurd (ht.symm.trans hf) nofun
    · exact fun hf => absurd (ht.symm.trans hf) nofun
    · intro j hj
      cases hj
      exact ⟨hm, hi⟩

lemma Coherent.recallOlder (h : sh.Coherent) (hm : sh.mode = .expression) :
    sh.recallOlder.Coherent := by
  unfold Shell.recallOlder
  split
  · exact h
  · split
    · exact h.recallEntry hm _
    · exact h.recallEntry hm _

lemma Coherent.recallNewer (h : sh.Coherent) (hm : sh.mode = .expression) :
    sh.recallNewer.Coherent := by
  unfold Shell.recallNewer
  split
  · exact h
  · obtain ⟨-, hn, hf⟩ := typing_of_expression hm
    exact h.cleared hn rfl rfl rfl rfl (h.pending_none hf) hf
  · exact h.recallEntry hm _

/-- The symbol for true is tried with the symbol for false in force. -/
lemma forFalse_typedSymbols (hm : sh.mode = .trueSymbol) {s : Symbols}
    (hs : sh.typedSymbols = .ok s) : s.forFalse = sh.symbols.forFalse := by
  unfold typedSymbols at hs
  cases hc : Symbols.readChar sh.input with
  | error e => simp [hc, bind, Except.bind] at hs
  | ok c =>
    simp only [hc, hm, bind, Except.bind] at hs
    exact (Symbols.ofChars_eq_ok.1 hs).2

lemma Coherent.submitSymbol (h : sh.Coherent)
    (hm : sh.mode = .trueSymbol ∨ sh.mode = .falseSymbol) : sh.submitSymbol.Coherent := by
  obtain ⟨ht, hn, he⟩ := typing_of_symbol hm
  unfold Shell.submitSymbol
  cases hs : sh.typedSymbols with
  | error e =>
    -- The question stays open, and only the line is emptied.
    have hline := (h.status (some s!"Invalid input: {e.message}")).withLine (.inl ht)
      (l := ⟨[], 0⟩) (Nat.le_refl 0)
    rw [withLine_eq] at hline
    simpa [hn, clearInput] using hline
  | ok s =>
    rcases hm with hm | hm
    · simp only [hm]
      exact
        { cursor_le := Nat.zero_le _
          nameInput_nil := fun _ => h.nameInput_nil hn
          input_nil := fun _ => rfl
          cursor_zero := fun _ _ => rfl
          recalled_lt := fun i hi => absurd (h.recalled_lt i hi).1 he
          pending_isSome := ⟨fun _ => rfl, fun _ => rfl⟩
          pending_forFalse := fun s' hs' => by
            cases hs'
            exact forFalse_typedSymbols hm hs }
    · simp only [hm]
      exact h.cleared hn rfl rfl rfl (h.recalled_none he) rfl nofun

/-! ### Runs of keys -/

/-- **A key keeps the shell in order**, whatever the outside answers. -/
lemma Coherent.move (h : sh.Coherent) (hm : Move sh p a sh') : sh'.Coherent := by
  cases hm with
  | stay => exact h
  | silence | nothingToCopy | copied => exact h.status _
  | beginExpression hm => exact h.beginExpression hm
  | beginSymbols hm => exact h.beginSymbols hm
  | showGates hm => exact h.view (.inl hm) (.inr (.inl rfl)) _ _
  | showHelp hm => exact h.view (.inl hm) (.inr (.inr rfl)) _ _
  | closeView hm => exact h.view (.inr hm) (.inl rfl) _ _
  | scroll hm n => exact h.view (.inr (.inr hm)) (.inr (.inr hm)) n _
  | beginNaming purpose hm => exact h.beginNaming (hm.imp_right And.left) purpose
  | edit hm hf => exact h.edit hm hf
  | deleteBefore hm hn => exact h.deleteBefore hm hn
  | submitExpression hm => exact h.submitExpression hm
  | leaveExpression hm => exact h.leaveExpression hm
  | recallOlder hm => exact h.recallOlder hm
  | recallNewer hm => exact h.recallNewer hm
  | submitSymbol hm => exact h.submitSymbol hm
  | symbolsUnsaved hm => exact (h.submitSymbol hm).status _
  | leaveSymbols hm => exact h.leaveSymbols hm
  | saved hm =>
    cases a.written <;> exact h.leaveNaming hm rfl rfl rfl
  | loaded hm | unloaded hm | leaveNaming hm => exact h.leaveNaming hm rfl rfl rfl
  | exported hm =>
    rcases hm with hm | hm
    · exact h.leaveNaming hm rfl rfl rfl
    · exact h.leaveNaming hm rfl rfl rfl

lemma Coherent.exists_deleteBefore? (h : sh.Coherent) : ∃ next, sh.deleteBefore? = some next := by
  obtain ⟨l, hl, -⟩ := Line.exists_deleteBefore? h.line_cursor_le
  exact ⟨sh.withLine l, by rw [deleteBefore?, hl]; rfl⟩

/-- No key gets the shell stuck, and whatever the outside answers the shell stays in order. -/
lemma Coherent.press (h : sh.Coherent) (p : Press) (a : Answers) :
    ∃ sh', (sh.press p).resume a = some sh' ∧ Move sh p a sh' ∧ sh'.Coherent := by
  obtain ⟨next, hd⟩ := h.exists_deleteBefore?
  obtain ⟨sh', hr⟩ := (moves_press sh p a).exists_resume hd
  have hm := (moves_press sh p a).move hr
  exact ⟨sh', hr, hm, h.move hm⟩

lemma helpScroll_withLine (sh : Shell) (l : Line) :
    (sh.withLine l).helpScroll = sh.helpScroll := by
  rw [withLine_eq]

lemma helpScroll_submitSymbol (sh : Shell) : sh.submitSymbol.helpScroll = sh.helpScroll := by
  unfold submitSymbol
  split
  · rfl
  · split <;> rfl

lemma Retyped.helpScroll_eq (h : Retyped sh sh') : sh'.helpScroll = sh.helpScroll := by
  obtain ⟨_, _, _, rfl⟩ := h
  rfl

/-- A key scrolls the help by five lines at most. -/
lemma Move.helpScroll_le (hm : Move sh p a sh') : sh'.helpScroll ≤ sh.helpScroll + 5 := by
  have hkept : sh'.helpScroll = sh.helpScroll → sh'.helpScroll ≤ sh.helpScroll + 5 := by omega
  cases hm with
  | scroll _ n hn => exact hn
  | showHelp => exact Nat.zero_le _
  | edit => exact hkept (helpScroll_withLine _ _)
  | deleteBefore _ hn =>
    obtain ⟨l, -, rfl⟩ := Option.map_eq_some_iff.1 hn
    exact hkept (helpScroll_withLine _ _)
  | submitExpression =>
    obtain ⟨_, _, _, _, heq⟩ := sh.submitExpression_eq
    exact hkept (by rw [heq])
  | recallOlder => exact hkept (retyped_recallOlder _).helpScroll_eq
  | recallNewer => exact hkept (retyped_recallNewer _).helpScroll_eq
  | submitSymbol => exact hkept (helpScroll_submitSymbol _)
  | symbolsUnsaved => exact hkept (helpScroll_submitSymbol _)
  | saved =>
    obtain ⟨_, _, heq⟩ := sh.saved_eq (written sh.promptName a.written)
    exact hkept (by rw [heq])
  | _ => exact hkept rfl

/-- What a run keeps: no key gets the shell stuck, and the shell stays in order. -/
lemma Coherent.pressed (h : sh.Coherent) (ps : List (Press × Answers)) :
    ∃ sh', sh.pressed ps = some sh' ∧ sh'.Coherent ∧
      sh'.helpScroll ≤ sh.helpScroll + 5 * ps.length := by
  induction ps generalizing sh with
  | nil => exact ⟨sh, rfl, h, Nat.le_refl _⟩
  | cons p ps ih =>
    obtain ⟨sh₁, hr, hm, h₁⟩ := h.press p.1 p.2
    obtain ⟨sh₂, hps, h₂, hle⟩ := ih h₁
    refine ⟨sh₂, ?_, h₂, ?_⟩
    · rw [Shell.pressed, List.map_cons, takeAll_cons, take, hr]
      exact hps
    · have := hm.helpScroll_le
      rw [List.length_cons]
      omega

/-- Keys lead to the state from a start, whatever there was to tell at that start and whatever the
files held on the way. -/
def Reached (sh : Shell) : Prop :=
  ∃ (settings : Settings) (name status : Option String) (qs : List (Press × Answers)),
    { start settings name with status }.pressed qs = some sh

lemma Reached.coherent (h : sh.Reached) : sh.Coherent := by
  obtain ⟨settings, name, status, qs, hr⟩ := h
  obtain ⟨sh', hsh', hcoherent, -⟩ := ((coherent_start settings name).status status).pressed qs
  rw [hr] at hsh'
  cases hsh'
  exact hcoherent

end Shell

/-- **Keys keep the shell in order and never get it stuck**, for all settings and names, all keys,
and whatever files hold and the clipboard takes: after any run the cursor stands within its line,
what is not asked for is empty, and there is a character before the cursor to delete unless the
cursor is at the start. The one counter that keys can drive up, that of the lines scrolled, is at
most five times the number of keys. With the files of a store, too, every run of keys comes to a
state that is in order. -/
theorem Shell.coherent_after_keys (settings : Settings) (name : Option String) :
    (∀ ps : List (Press × Answers), ∃ sh, (start settings name).pressed ps = some sh ∧
      sh.Coherent ∧ (∃ next, sh.deleteBefore? = some next) ∧ sh.helpScroll ≤ 5 * ps.length) ∧
    ∀ (st : Store) (ps : List Press), ∃ sh st',
      pressAll (start settings name) st ps = some (sh, st') ∧ sh.Coherent := by
  have hruns (ps : List (Press × Answers)) := (coherent_start settings name).pressed ps
  constructor
  · intro ps
    obtain ⟨sh, hps, h, hle⟩ := hruns ps
    refine ⟨sh, hps, h, h.exists_deleteBefore?, ?_⟩
    rwa [show (start settings name).helpScroll = 0 from rfl, Nat.zero_add] at hle
  · intro st ps
    obtain ⟨as, -, has⟩ := map_pressAll (start settings name) st ps
    obtain ⟨sh, hsh, h, -⟩ := hruns as
    rw [hsh, Option.map_eq_some_iff] at has
    obtain ⟨⟨sh', st'⟩, hr, rfl⟩ := has
    exact ⟨sh', st', hr, h⟩

end BoolCalc
