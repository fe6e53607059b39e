import BoolCalc.Proofs.Dialog
import BoolCalc.Proofs.Frame

/-!
# Accepted symbols and the file of settings

When a pair of symbols is accepted that differs from the one in force, the settings are written to
their file, or it is told that they cannot be. When the pair in force is accepted once more, nothing
is written and nothing told. What the file holds then depends on the run before: keys change the
settings without their file when a session is loaded, and the file behind the settings when a
session is saved or a table exported under its name, and a write can have failed.
-/

namespace BoolCalc.Shell

variable {sh sh' : Shell} {st st' : Store} {p : Press} {ps : List Press} {s : Symbols}
  {path : String}

/-- The next state is one that a move leads to. -/
lemma exists_move_of_carryOut (h : (sh.press p).carryOut st = some (sh', st')) :
    ∃ a, Move sh p a sh' := by
  have hresume := (sh.press p).map_carryOut st
  rw [h] at hresume
  exact ⟨_, (moves_press sh p _).move hresume.symm⟩

lemma settingsName_pressAll (h : pressAll sh st ps = some (sh', st')) :
    sh'.settingsName = sh.settingsName := by
  induction ps generalizing sh st with
  | nil =>
    cases h
    rfl
  | cons p ps ih =>
    obtain ⟨next, st₁, hnext, h⟩ := pressAll_cons_eq_some.1 h
    obtain ⟨a, hmove⟩ := exists_move_of_carryOut hnext
    exact (ih h).trans hmove.frame.settingsName

/-- What is told of a pair that comes into force. -/
def definedText (s : Symbols) : String :=
  s!"True representation set to: {s.forTrue} | False representation set to: {s.forFalse}"

/-- What is told when the settings cannot be written. -/
def unsavedText (reason : String) : String :=
  s!"Symbols changed for this session only, save failed: {reason}"

/-- The text that tells of success is none that tells of a failure. -/
lemma definedText_ne_unsavedText (s : Symbols) (reason : String) :
    definedText s ≠ unsavedText reason := by
  intro h
  have htext : "True representation set to: " ++ toString s.forTrue ++
      " | False representation set to: " ++ toString s.forFalse =
      "Symbols changed for this session only, save failed: " ++ reason := h
  have hchars := congrArg String.toList htext
  simp [String.toList_append] at hchars

lemma submitSymbolKey_of_false (hm : sh.mode = .falseSymbol) (hs : sh.typedSymbols = .ok s)
    (hname : sh.settingsName = some path) :
    sh.submitSymbolKey =
      if s = sh.symbols then .settle (sh.define s).clearInput
      else .write path (Settings.encode ⟨s, sh.settings.historyLimit⟩) fun
        | .ok () => (sh.define s).clearInput
        | .error e => (sh.define s).clearInput.symbolsUnsaved e.message := by
  have hnext : (sh.define s).clearInput.settingsName = some path := hname
  simp only [submitSymbolKey, submitSymbol_of_false hm hs, hnext]
  rfl

/-- Enter behind an accepted symbol for false either finds the pair in force already, or the file of
settings takes it, or it is told that the file does not. -/
lemma carryOut_defines (h : sh.Defines p) (hname : sh.settingsName = some path) (st : Store) :
    ∃ s next st', sh.typedSymbols = .ok s ∧ (sh.press p).carryOut st = some (next, st') ∧
      next.settings = ⟨s, sh.settings.historyLimit⟩ ∧ next.mode = .menu ∧
      (s = sh.symbols ∧ st' = st ∧ next.status = some (definedText s) ∨
        s ≠ sh.symbols ∧ st.write path next.settings.encode = .ok st' ∧
          next.status = some (definedText s) ∨
        s ≠ sh.symbols ∧ ∃ e, st.write path next.settings.encode = .error e ∧ st' = st ∧
          next.status = some (unsavedText e.message)) := by
  obtain ⟨hm, hp, s, hs⟩ := h
  have hpress : sh.press p = sh.submitSymbolKey := by simp only [press, hm, symbolKey, hp]
  rw [hpress, submitSymbolKey_of_false hm hs hname]
  by_cases hsame : s = sh.symbols
  · rw [if_pos hsame]
    exact ⟨s, _, st, hs, rfl, rfl, rfl, .inl ⟨hsame, rfl, rfl⟩⟩
  · rw [if_neg hsame, Reaction.carryOut]
    cases hwrite : st.write path (Settings.encode ⟨s, sh.settings.historyLimit⟩) with
    | ok st' => exact ⟨s, _, st', hs, rfl, rfl, rfl, .inr (.inl ⟨hsame, hwrite, rfl⟩)⟩
    | error e => exact ⟨s, _, st, hs, rfl, rfl, rfl, .inr (.inr ⟨hsame, e, hwrite, rfl, rfl⟩)⟩

/-- **Accepted symbols are written back if they are new.** In every run of keys on any files, Enter
behind an accepted symbol for false puts the pair in force. If the pair was another one before, the
file of settings then holds the settings in force, or it is told why it does not and no file has
changed. If the pair was in force already, no file has changed and no failure is told. So the file
agrees, or it is told that it does not, exactly if the pair is new or the file agreed before. -/
theorem new_symbols_written_back {settings : Settings} {path : String} {st st₁ : Store}
    {ps : List Press} {sh : Shell} {p : Press}
    (hrun : pressAll (start settings (some path)) st ps = some (sh, st₁)) (h : sh.Defines p) :
    ∃ s sh' st₂, sh.typedSymbols = .ok s ∧ (sh.press p).carryOut st₁ = some (sh', st₂) ∧
      sh'.settings = ⟨s, sh.settings.historyLimit⟩ ∧ sh'.mode = .menu ∧
      (s ≠ sh.symbols →
        Settings.load st₂ path = .ok sh'.settings ∧ sh'.status = some (definedText s) ∨
          st₂ = st₁ ∧ ∃ e, st₁.write path sh'.settings.encode = .error e ∧
            sh'.status = some (unsavedText e.message)) ∧
      (s = sh.symbols → st₂ = st₁ ∧ sh'.status = some (definedText s)) ∧
      ((Settings.load st₂ path = .ok sh'.settings ∨
          ∃ reason, sh'.status = some (unsavedText reason)) ↔
        s ≠ sh.symbols ∨ Settings.load st₁ path = .ok sh.settings) := by
  have hname : sh.settingsName = some path := settingsName_pressAll hrun
  obtain ⟨s, sh', st₂, hs, hcarry, hsettings, hmenu, houtcome⟩ := carryOut_defines h hname st₁
  refine ⟨s, sh', st₂, hs, hcarry, hsettings, hmenu, ?_⟩
  obtain ⟨hsame, rfl, hstatus⟩ | ⟨hnew, hwrite, hstatus⟩ | ⟨hnew, e, hwrite, rfl, hstatus⟩ :=
    houtcome
  · have hkept : sh'.settings = sh.settings := by
      rw [hsettings, hsame]
      rfl
    have huntold : ¬ ∃ reason, sh'.status = some (unsavedText reason) := by
      rintro ⟨reason, htold⟩
      rw [hstatus] at htold
      exact definedText_ne_unsavedText s reason (Option.some.inj htold)
    refine ⟨absurd hsame, fun _ => ⟨rfl, hstatus⟩, ?_⟩
    rw [hkept, or_iff_left huntold, or_iff_right (not_not.2 hsame)]
  · have hload : Settings.load st₂ path = .ok sh'.settings := Settings.load_write hwrite
    exact ⟨fun _ => .inl ⟨hload, hstatus⟩, fun hsame => absurd hsame hnew,
      iff_of_true (.inl hload) (.inl hnew)⟩
  · exact ⟨fun _ => .inr ⟨rfl, e, hwrite, hstatus⟩, fun hsame => absurd hsame hnew,
      iff_of_true (.inr ⟨_, hstatus⟩) (.inl hnew)⟩

/-- The digits are new at the start, and the file of settings, which was not there, holds them. -/
theorem new_symbols_written_back_digits :
    let digits : Symbols := ⟨'1', '0', by decide, by decide, by decide⟩
    let keys := ([.char 'd', .char '1', .enter, .char '0'] : List Key).map (Press.mk · false)
    ∃ sh sh' st', pressAll (start .standard (some "s.json")) .empty keys = some (sh, .empty) ∧
      (sh.press ⟨.enter, false⟩).carryOut .empty = some (sh', st') ∧
      sh'.settings = ⟨digits, 50⟩ ∧ Settings.load st' "s.json" = .ok sh'.settings := by
  intro digits keys
  obtain ⟨sh, hrun, hmode, htyped, hsettings⟩ : ∃ sh,
      pressAll (start .standard (some "s.json")) .empty keys = some (sh, .empty) ∧
      sh.mode = .falseSymbol ∧ sh.typedSymbols = .ok digits ∧ sh.settings = .standard :=
    ⟨_, rfl, rfl, rfl, rfl⟩
  have hdefines : sh.Defines ⟨.enter, false⟩ := ⟨hmode, rfl, digits, htyped⟩
  obtain ⟨s, sh', st', hs, hcarry, hnext, -, houtcome, -⟩ :=
    new_symbols_written_back hrun hdefines
  obtain rfl : digits = s := Except.ok.inj (htyped.symm.trans hs)
  have hnext' : sh'.settings = ⟨digits, 50⟩ := by rw [hnext, hsettings]; rfl
  have hnew : digits ≠ sh.symbols := by
    rw [symbols, hsettings]
    decide
  have hwrite (content : ByteArray) : Store.empty.write "s.json" content =
      .ok (Store.empty.put ["s.json".toList] content) := rfl
  refine ⟨sh, sh', st', hrun, hcarry, hnext', ?_⟩
  obtain ⟨hload, -⟩ | ⟨-, e, herror, -⟩ := houtcome hnew
  · exact hload
  · rw [hwrite] at herror
    cases herror

/-- The digits come into force with a session. When they are accepted at the prompt afterwards, the
file of settings keeps the letters, and no failure is told. -/
theorem accepted_symbols_unwritten :
    let digits : Symbols := ⟨'1', '0', by decide, by decide, by decide⟩
    let session : Session := ⟨⟨digits, 50⟩, []⟩
    let st : Store := ⟨[], [([['s']], Settings.standard.encode),
      (["session.boolterm".toList], session.encode)]⟩
    let keys := (⟨.char 'o', true⟩ : Press) ::
      ([.enter, .char 'd', .char '1', .enter, .char '0'] : List Key).map (Press.mk · false)
    ∃ sh sh', pressAll (start .standard (some "s")) st keys = some (sh, st) ∧
      sh.Defines ⟨.enter, false⟩ ∧ (sh.press ⟨.enter, false⟩).carryOut st = some (sh', st) ∧
      sh'.settings = ⟨digits, 50⟩ ∧
      ¬ (Settings.load st "s" = .ok sh'.settings ∨
        ∃ reason, sh'.status = some (unsavedText reason)) := by
  intro digits session st keys
  have hread (c d : ByteArray) :
      (⟨[], [([['s']], c), (["session.boolterm".toList], d)]⟩ : Store).read "session.boolterm" =
        .ok d := rfl
  have hkept (c d : ByteArray) :
      Settings.load ⟨[], [([['s']], c), (["session.boolterm".toList], d)]⟩ "s" =
        Settings.decode c := rfl
  obtain ⟨asked, hask, hmode, hname, hfile⟩ : ∃ asked,
      ((start .standard (some "s")).press ⟨.char 'o', true⟩).carryOut st = some (asked, st) ∧
      asked.mode = .naming .loadSession ∧ asked.promptName = "session.boolterm" ∧
      asked.settingsName = some "s" := ⟨_, rfl, rfl, rfl, rfl⟩
  have hload : (asked.press ⟨.enter, false⟩).carryOut st =
      some (asked.loaded (.ok (session, asked.promptName)), st) :=
    carryOut_load hmode rfl (by rw [hname]; exact hread _ _)
  obtain ⟨sh, hrun, hmode', htyped, hsettings, hfile'⟩ : ∃ sh,
      pressAll (asked.loaded (.ok (session, asked.promptName))) st
        (([.char 'd', .char '1', .enter, .char '0'] : List Key).map (Press.mk · false)) =
        some (sh, st) ∧ sh.mode = .falseSymbol ∧ sh.typedSymbols = .ok digits ∧
      sh.settings = ⟨digits, 50⟩ ∧ sh.settingsName = some "s" := ⟨_, rfl, rfl, rfl, rfl, hfile⟩
  have hdefines : sh.Defines ⟨.enter, false⟩ := ⟨hmode', rfl, digits, htyped⟩
  obtain ⟨s, sh', st', hs, hcarry, hnext, -, houtcome⟩ := carryOut_defines hdefines hfile' st
  obtain rfl : digits = s := Except.ok.inj (htyped.symm.trans hs)
  have hsame : digits = sh.symbols := (congrArg Settings.symbols hsettings).symm
  obtain ⟨-, rfl, hstatus⟩ | ⟨hnew, -⟩ | ⟨hnew, -⟩ := houtcome
  · have hsettings' : sh'.settings = ⟨digits, 50⟩ := by rw [hnext, hsettings]
    refine ⟨sh, sh', ?_, hdefines, hcarry, hsettings', ?_⟩
    · exact (pressAll_cons hask).trans ((pressAll_cons hload).trans hrun)
    · rintro (hagrees | ⟨reason, htold⟩)
      · rw [hsettings', hkept, Settings.decode_encode] at hagrees
        exact absurd (congrArg Settings.symbols (Except.ok.inj hagrees)) (by decide)
      · rw [hstatus] at htold
        exact definedText_ne_unsavedText digits reason (Option.some.inj htold)
  · exact absurd hsame hnew
  · exact absurd hsame hnew

end BoolCalc.Shell
