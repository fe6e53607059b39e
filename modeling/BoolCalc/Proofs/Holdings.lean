import Mathlib.Data.List.Basic
import BoolCalc.Proofs.Runs
import BoolCalc.Proofs.WrittenPairs

/-!
# The pairs of symbols that the shell holds

Pairs of symbols come into the shell in three ways: typed at the prompt, with the file of a session,
and with a session that is handed over. An offer is looked at here as the mere characters that it
is, sound or not. It is taken only if every pair of it is sound, so whatever pair the shell holds,
in force, half defined, in its history or with its last outcome, is one that it started with or a
sound one that was offered on the way.
-/

namespace BoolCalc

/-- Two characters that can spell true and false: they differ, neither is white space, and neither
belongs to the grammar. -/
def Sound (q : Char × Char) : Prop :=
  q.1 ≠ q.2 ∧ ∀ c ∈ [q.1, q.2], Text.isBlank c = false ∧ c ∉ ['!', '&', '|', '@', '$', '(', ')']

instance (q : Char × Char) : Decidable (Sound q) := inferInstanceAs (Decidable (_ ∧ _))

/-! ### Accepted pairs -/

namespace Symbols

variable {s : Symbols} {q : Char × Char}

lemma sound_iff : Sound q ↔ q.1 ≠ q.2 ∧ Usable q.1 ∧ Usable q.2 := by
  simp [Sound, Usable, reservedChars]

lemma sound_chars (s : Symbols) : Sound s.chars :=
  sound_iff.2 ⟨s.distinct, s.true_usable, s.false_usable⟩

lemma ofChars_eq_ok_iff_chars : ofChars q.1 q.2 = .ok s ↔ s.chars = q := by
  rw [ofChars_eq_ok, chars, Prod.ext_iff]

/-- **Exactly the sound pairs are accepted.** -/
lemma exists_ofChars : (∃ s, ofChars q.1 q.2 = .ok s) ↔ Sound q := by
  constructor
  · rintro ⟨s, hs⟩
    rw [← ofChars_eq_ok_iff_chars.1 hs]
    exact s.sound_chars
  · intro h
    obtain ⟨hne, ht, hf⟩ := sound_iff.1 h
    exact ⟨⟨q.1, q.2, hne, ht, hf⟩, ofChars_eq_ok.2 ⟨rfl, rfl⟩⟩

end Symbols

/-- A change of one symbol of a pair. -/
inductive Update where
  | forTrue (c : Char)
  | forFalse (c : Char)

/-- The pair that a change asks for. -/
def Update.asked : Update → Char × Char → Char × Char
  | .forTrue c, q => (c, q.2)
  | .forFalse c, q => (q.1, c)

namespace Symbols

/-- The pair after a change. -/
def update (s : Symbols) : Update → Except SymbolError Symbols
  | .forTrue c => s.withTrue c
  | .forFalse c => s.withFalse c

/-- The pair after changes one by one; a refused change leaves the pair as it was. -/
def updateAll (s : Symbols) (us : List Update) : Symbols :=
  us.foldl (fun s u => (s.update u).toOption.getD s) s

lemma update_eq (s : Symbols) (u : Update) :
    s.update u = ofChars (u.asked s.chars).1 (u.asked s.chars).2 := by
  cases u <;> rfl

/-- A change is made if the pair that it asks for is sound, and else refused. -/
lemma chars_update (s : Symbols) (u : Update) :
    ((s.update u).toOption.getD s).chars =
      if Sound (u.asked s.chars) then u.asked s.chars else s.chars := by
  rw [update_eq]
  cases hu : ofChars (u.asked s.chars).1 (u.asked s.chars).2 with
  | ok s' =>
    rw [if_pos (exists_ofChars.1 ⟨s', hu⟩)]
    exact ofChars_eq_ok_iff_chars.1 hu
  | error e =>
    refine (if_neg fun h => ?_).symm
    obtain ⟨s', hs'⟩ := exists_ofChars.2 h
    rw [hu] at hs'
    cases hs'

lemma chars_updateAll (s : Symbols) (us : List Update) :
    (s.updateAll us).chars =
      us.foldl (fun q u => if Sound (u.asked q) then u.asked q else q) s.chars := by
  induction us generalizing s with
  | nil => rfl
  | cons u us ih =>
    rw [List.foldl_cons, ← chars_update]
    exact ih _

end Symbols

/-! ### Held and offered pairs -/

namespace Shell

variable {sh sh' : Shell} {s : Symbols} {p : Press} {a : Answers} {c : Call} {i : Input}

/-- The places where the shell holds a pair of symbols. -/
inductive Holds (sh : Shell) (s : Symbols) : Prop where
  | inForce (h : sh.symbols = s)
  | pending (h : sh.pending = some s)
  | entry {e : HistoryEntry} (he : e ∈ sh.history) (h : e.symbols = s)
  | outcome {e : Evaluation} (he : sh.lastEvaluation = some e) (h : e.symbols = s)

/-- The pair that the typed character would make, if one character is typed. -/
def typedPairs (sh : Shell) : List (Char × Char) :=
  match sh.input with
  | [c] =>
    [if sh.mode = .trueSymbol then (c, sh.symbols.forFalse)
     else ((sh.pending.getD sh.symbols).forTrue, c)]
  | _ => []

/-- The pairs that an input offers, sound or not. -/
def offers (sh : Shell) : Input → List (Char × Char)
  | .key p a =>
    match sh.mode, p.key, a.read with
    | .trueSymbol, .enter, _ | .falseSymbol, .enter, _ => sh.typedPairs
    | .naming .loadSession, .enter, .ok bytes =>
      (Session.writtenPairs bytes).toOption.getD []
    | _, _, _ => []
  | .call .submitSymbol => sh.typedPairs
  | .call (.loaded (.ok (s, _))) => s.pairs.map Symbols.chars
  | .call _ => []

/-- The pairs of all the offers along a run that have sound pairs only. -/
def soundOffers (sh : Shell) : List Input → List (Char × Char)
  | [] => []
  | i :: is =>
    let taken := if ∀ q ∈ sh.offers i, Sound q then sh.offers i else []
    match sh.take i with
    | some next => taken ++ next.soundOffers is
    | none => taken

/-- The pair is offered together with sound pairs only. -/
def Offered (qs : List (Char × Char)) (s : Symbols) : Prop := s.chars ∈ qs ∧ ∀ q ∈ qs, Sound q

/-- A pair that is held where the symbols in force, the history and the last outcome are the same
and nothing else is pending was held before. -/
lemma Holds.of_same (hs : sh'.Holds s) (hsymbols : sh'.symbols = sh.symbols)
    (hpending : sh'.pending = none ∨ sh'.pending = sh.pending) (hhistory : sh'.history = sh.history)
    (hlast : sh'.lastEvaluation = sh.lastEvaluation) : sh.Holds s := by
  cases hs with
  | inForce h => exact .inForce (hsymbols ▸ h)
  | pending h =>
    rcases hpending with hp | hp
    · rw [hp] at h
      cases h
    · exact .pending (hp ▸ h)
  | entry he h => exact .entry (hhistory ▸ he) h
  | outcome he h => exact .outcome (hlast ▸ he) h

lemma symbols_of_evaluate {text : String} {e : Evaluation} (h : evaluate s text = .ok e) :
    e.symbols = s := by
  rw [evaluate_eq] at h
  cases hc : compute s text.toList with
  | error r =>
    rw [hc] at h
    cases h
  | ok r =>
    rw [hc] at h
    cases h
    rfl

/-- An evaluation keeps the symbols in force with its outcome, and nothing else is new. -/
lemma Holds.of_submitExpression (hs : sh.submitExpression.Holds s) : sh.Holds s := by
  unfold submitExpression at hs
  cases hev : evaluate sh.symbols (String.ofList sh.input) with
  | error r =>
    simp only [hev] at hs
    exact hs.of_same rfl (.inr rfl) rfl rfl
  | ok ev =>
    simp only [hev] at hs
    cases hs with
    | inForce h => exact .inForce h
    | pending h => exact .pending h
    | entry he h =>
      rcases List.mem_append.1 (List.mem_of_mem_drop he) with he | he
      · exact .entry he h
      · rw [List.mem_singleton] at he
        subst he
        exact .inForce ((symbols_of_evaluate hev).symm.trans h)
    | outcome he h =>
      cases he
      exact .inForce ((symbols_of_evaluate hev).symm.trans h)

lemma offered_singleton {q : Char × Char} (h : Symbols.ofChars q.1 q.2 = .ok s) :
    Offered [q] s := by
  refine ⟨List.mem_singleton.2 (Symbols.ofChars_eq_ok_iff_chars.1 h), ?_⟩
  intro q' hq'
  rw [List.mem_singleton.1 hq']
  exact Symbols.exists_ofChars.1 ⟨s, h⟩

lemma typedSymbols_eq {ch : Char} (hc : Symbols.readChar sh.input = .ok ch) :
    sh.typedSymbols =
      if sh.mode = .trueSymbol then sh.symbols.withTrue ch
      else (sh.pending.getD sh.symbols).withFalse ch := by
  unfold typedSymbols
  rw [hc]
  cases sh.mode <;> rfl

lemma typedPairs_eq {ch : Char} (hinput : sh.input = [ch]) :
    sh.typedPairs =
      [if sh.mode = .trueSymbol then (ch, sh.symbols.forFalse)
       else ((sh.pending.getD sh.symbols).forTrue, ch)] := by
  unfold typedPairs
  rw [hinput]

lemma offered_typedSymbols (h : sh.typedSymbols = .ok s) : Offered sh.typedPairs s := by
  cases hc : Symbols.readChar sh.input with
  | error e =>
    unfold typedSymbols at h
    rw [hc] at h
    cases h
  | ok ch =>
    rw [typedSymbols_eq hc] at h
    rw [typedPairs_eq (Symbols.readChar_eq_ok.1 hc).1]
    by_cases hm : sh.mode = .trueSymbol
    · rw [if_pos hm] at h ⊢
      exact offered_singleton h
    · rw [if_neg hm] at h ⊢
      exact offered_singleton h

lemma Holds.of_submitSymbol (hs : sh.submitSymbol.Holds s) :
    sh.Holds s ∨ Offered sh.typedPairs s := by
  unfold submitSymbol at hs
  cases hty : sh.typedSymbols with
  | error e =>
    simp only [hty] at hs
    exact .inl (hs.of_same rfl (.inr rfl) rfl rfl)
  | ok s' =>
    have hoffered := offered_typedSymbols hty
    simp only [hty] at hs
    split at hs
    · cases hs with
      | inForce h => exact .inl (.inForce h)
      | pending h =>
        cases h
        exact .inr hoffered
      | entry he h => exact .inl (.entry he h)
      | outcome he h => exact .inl (.outcome he h)
    · cases hs with
      | inForce h =>
        cases h
        exact .inr hoffered
      | pending h => cases h
      | entry he h => exact .inl (.entry he h)
      | outcome he h => exact .inl (.outcome he h)

lemma Holds.of_loaded {session : Session} {name : String}
    (hs : (sh.loaded (.ok (session, name))).Holds s) : sh.Holds s ∨ s ∈ session.pairs := by
  cases hs with
  | inForce h => exact .inr (h ▸ List.mem_cons_self)
  | pending h => exact .inl (.pending h)
  | entry he h =>
    refine .inr (List.mem_cons_of_mem _ ?_)
    exact List.mem_map.2 ⟨_, List.mem_of_mem_drop he, h⟩
  | outcome he h => cases he

lemma offered_pairs {session : Session} (h : s ∈ session.pairs) :
    Offered (session.pairs.map Symbols.chars) s := by
  refine ⟨List.mem_map_of_mem h, ?_⟩
  intro q hq
  obtain ⟨s', -, rfl⟩ := List.mem_map.1 hq
  exact s'.sound_chars

lemma offers_symbol (hm : sh.mode = .trueSymbol ∨ sh.mode = .falseSymbol) (hp : p.key = .enter) :
    sh.offers (.key p a) = sh.typedPairs := by
  rcases hm with hm | hm <;> simp only [offers, hm, hp]

/-- A session is loaded with the pairs that its file offers. -/
lemma offers_loaded (hm : sh.mode = .naming .loadSession) (hp : p.key = .enter) {session : Session}
    (h : Session.ofReply a.read = .ok session) :
    sh.offers (.key p a) = session.pairs.map Symbols.chars := by
  cases hr : a.read with
  | error e =>
    rw [hr] at h
    cases h
  | ok bytes =>
    rw [hr] at h
    simp [offers, hm, hp, hr, Session.writtenPairs_of_decode h, Except.toOption]

lemma Holds.of_retyped (hs : sh'.Holds s) (h : Retyped sh sh') : sh.Holds s := by
  obtain ⟨_, _, _, rfl⟩ := h
  exact hs.of_same rfl (.inr rfl) rfl rfl

lemma Holds.of_withLine {l : Line} (hs : (sh.withLine l).Holds s) : sh.Holds s := by
  rw [withLine_eq] at hs
  exact hs.of_same rfl (.inr rfl) rfl rfl

lemma Holds.of_saved {outcome : Except String String} (hs : (sh.saved outcome).Holds s) :
    sh.Holds s := by
  obtain ⟨_, _, heq⟩ := sh.saved_eq outcome
  rw [heq] at hs
  exact hs.of_same rfl (.inr rfl) rfl rfl

/-- **A key brings in only what is typed at the prompt or written in a file that is loaded.** -/
lemma Holds.of_move (hm : Move sh p a sh') (hs : sh'.Holds s) :
    sh.Holds s ∨ Offered (sh.offers (.key p a)) s := by
  cases hm with
  | stay => exact .inl hs
  | submitSymbol hm hp =>
    rw [offers_symbol hm hp]
    exact hs.of_submitSymbol
  | symbolsUnsaved hm hp =>
    rw [offers_symbol hm hp]
    have hs : sh.submitSymbol.Holds s := hs.of_same rfl (.inr rfl) rfl rfl
    exact hs.of_submitSymbol
  | @loaded hm hp session hsession =>
    rw [offers_loaded hm hp hsession]
    exact hs.of_loaded.imp_right offered_pairs
  | submitExpression => exact .inl hs.of_submitExpression
  | recallOlder => exact .inl (hs.of_retyped (retyped_recallOlder sh))
  | recallNewer => exact .inl (hs.of_retyped (retyped_recallNewer sh))
  | edit => exact .inl hs.of_withLine
  | deleteBefore _ hn =>
    obtain ⟨l, -, rfl⟩ := Option.map_eq_some_iff.1 hn
    exact .inl hs.of_withLine
  | saved => exact .inl hs.of_saved
  | beginSymbols | leaveSymbols => exact .inl (hs.of_same rfl (.inl rfl) rfl rfl)
  | _ => exact .inl (hs.of_same rfl (.inr rfl) rfl rfl)

lemma Holds.of_call (hc : sh.call c = some sh') (hs : sh'.Holds s) :
    sh.Holds s ∨ Offered (sh.offers (.call c)) s := by
  cases c with
  | submitSymbol =>
    cases hc
    exact hs.of_submitSymbol
  | loaded outcome =>
    cases hc
    cases outcome with
    | ok r => exact hs.of_loaded.imp_right offered_pairs
    | error reason => exact .inl (hs.of_same rfl (.inr rfl) rfl rfl)
  | deleteBefore =>
    obtain ⟨l, -, rfl⟩ := Option.map_eq_some_iff.1 hc
    exact .inl hs.of_withLine
  | submitExpression =>
    cases hc
    exact .inl hs.of_submitExpression
  | recallOlder =>
    cases hc
    exact .inl (hs.of_retyped (retyped_recallOlder sh))
  | recallNewer =>
    cases hc
    exact .inl (hs.of_retyped (retyped_recallNewer sh))
  | saved outcome =>
    cases hc
    exact .inl hs.of_saved
  | insert | deleteAt | left | right | home | toEnd =>
    cases hc
    exact .inl hs.of_withLine
  | beginSymbols | leaveSymbols =>
    cases hc
    exact .inl (hs.of_same rfl (.inl rfl) rfl rfl)
  | _ =>
    cases hc
    exact .inl (hs.of_same rfl (.inr rfl) rfl rfl)

lemma Holds.of_take (ht : sh.take i = some sh') (hs : sh'.Holds s) :
    sh.Holds s ∨ Offered (sh.offers i) s := by
  cases i with
  | key p a => exact hs.of_move ((moves_press sh p a).move ht)
  | call c => exact hs.of_call ht

/-- What a run keeps: a pair that is held at its end was held before or was offered on the way. -/
lemma Holds.of_takeAll {is : List Input} (hr : sh.takeAll is = some sh') (hs : sh'.Holds s) :
    sh.Holds s ∨ s.chars ∈ sh.soundOffers is := by
  induction is generalizing sh with
  | nil =>
    cases hr
    exact .inl hs
  | cons i is ih =>
    rw [takeAll_cons, Option.bind_eq_some_iff] at hr
    obtain ⟨next, ht, hr⟩ := hr
    simp only [soundOffers, ht, List.mem_append]
    rcases ih hr with hnext | hoffer
    · rcases hnext.of_take ht with h | ⟨hmem, hsound⟩
      · exact .inl h
      · refine .inr (.inl ?_)
        rwa [if_pos hsound]
    · exact .inr (.inr hoffer)

lemma holds_start {settings : Settings} {name : Option String}
    (hs : (start settings name).Holds s) : s = settings.symbols := by
  cases hs with
  | inForce h => exact h.symm
  | pending h => cases h
  | entry he h => cases he
  | outcome he h => cases he

end Shell

/-- **Whatever pair of symbols is held is sound**, whichever way it came in. Exactly the sound pairs
are accepted; a pair that is changed symbol by symbol goes from sound pair to sound pair, and stays
as it is where a change is refused; settings come from a file only with the pair that is written in
it; and after any run of keys and calls, whatever files hold, each pair in the shell is sound and is
the one that the shell started with or one that was offered on the way among sound pairs only. -/
theorem Shell.held_pairs_sound :
    (∀ q : Char × Char, (∃ s, Symbols.ofChars q.1 q.2 = .ok s) ↔ Sound q) ∧
    (∀ (s : Symbols) (us : List Update), Sound (s.updateAll us).chars ∧
      (s.updateAll us).chars =
        us.foldl (fun q u => if Sound (u.asked q) then u.asked q else q) s.chars) ∧
    (∀ (bytes : ByteArray) (settings : Settings), Settings.decode bytes = .ok settings →
      Sound settings.symbols.chars ∧ Settings.writtenPair bytes = .ok settings.symbols.chars) ∧
    ∀ (settings : Settings) (name : Option String) (is : List Input) (sh : Shell) (s : Symbols),
      (start settings name).takeAll is = some sh → sh.Holds s →
        Sound s.chars ∧
          (s = settings.symbols ∨ s.chars ∈ (start settings name).soundOffers is) := by
  refine ⟨fun q => Symbols.exists_ofChars, fun s us => ?_, fun bytes settings h => ?_, ?_⟩
  · exact ⟨Symbols.sound_chars _, s.chars_updateAll us⟩
  · exact ⟨Symbols.sound_chars _, Settings.writtenPair_of_decode h⟩
  · intro settings name is sh s hr hs
    exact ⟨s.sound_chars, (hs.of_takeAll hr).imp_left holds_start⟩

/-- Digits are defined at the prompt, where the `1` is refused when it is typed a second time. -/
theorem Shell.held_pairs_sound_digits :
    Settings.decode "[]".toUTF8 = .ok .standard ∧ Sound ('T', 'F') ∧
      ∃ digits : Symbols, digits.chars = ('1', '0') ∧
        let is : List Input :=
          ([.char 'd', .char '1', .enter, .char '1', .enter, .char '0', .enter] : List Key).map
            fun k => .key ⟨k, false⟩ ⟨.error .missing, .ok (), .ok ()⟩
        ∃ sh, (start .standard none).takeAll is = some sh ∧ sh.Holds digits ∧
          Sound digits.chars ∧ digits.chars ∈ (start .standard none).soundOffers is := by
  have hsettings : Settings.decode "[]".toUTF8 = .ok .standard := by decide +kernel
  refine ⟨hsettings, (held_pairs_sound.2.2.1 _ _ hsettings).1,
    ⟨'1', '0', by decide, by decide, by decide⟩, rfl, ?_⟩
  intro is
  obtain ⟨sh, hr, hsymbols⟩ : ∃ sh, (start .standard none).takeAll is = some sh ∧
      sh.symbols = ⟨'1', '0', by decide, by decide, by decide⟩ := ⟨_, rfl, rfl⟩
  have hs := held_pairs_sound.2.2.2 .standard none is sh _ hr (.inForce hsymbols)
  exact ⟨sh, hr, .inForce hsymbols, hs.1, hs.2.resolve_left (by decide)⟩

end BoolCalc
