import BoolCalc.Proofs.Handover
import BoolCalc.Proofs.Holdings
import BoolCalc.Proofs.Recall

/-!
# Defining symbols is all or nothing

The dialog that defines the symbols takes strings one after the other. The first that spells a
symbol beside the one for false in force becomes the symbol for true, the first after it that spells
one beside that becomes the symbol for false, and only then does the pair come into force. All other
strings pass without a trace, and so does a dialog that is left.
-/

namespace BoolCalc

open Text (isBlank)

/-- The symbol that a string spells beside the symbol `other`: it is a single character, no blank,
none of the grammar and not the other one. -/
def symbolBeside (other : Char) : List Char → Option Char
  | [c] =>
    if isBlank c = false ∧ c ∉ ['!', '&', '|', '@', '$', '(', ')'] ∧ c ≠ other then some c else none
  | _ => none

/-- The first symbol beside `other` among the strings, and the strings after it. -/
def firstSymbol (other : Char) : List (List Char) → Option (Char × List (List Char))
  | [] => none
  | w :: ws =>
    match symbolBeside other w with
    | some c => some (c, ws)
    | none => firstSymbol other ws

/-- The keys that submit a string. -/
def submission (w : List Char) : List Key := w.map .char ++ [.enter]

lemma symbolBeside_eq_some {other c : Char} {w : List Char} :
    symbolBeside other w = some c ↔ w = [c] ∧ Usable c ∧ c ≠ other := by
  unfold symbolBeside
  split
  · rename_i d
    constructor
    · intro h
      split at h
      · rename_i hd
        cases h
        exact ⟨rfl, ⟨hd.1, hd.2.1⟩, hd.2.2⟩
      · cases h
    · rintro ⟨hw, ⟨hblank, hfree⟩, hne⟩
      cases hw
      exact if_pos ⟨hblank, hfree, hne⟩
  · rename_i hsingle
    exact ⟨nofun, fun h => absurd h.1 (hsingle c)⟩

lemma firstSymbol_eq_some {other c : Char} {ws later : List (List Char)}
    (h : firstSymbol other ws = some (c, later)) :
    ∃ us w, ws = us ++ w :: later ∧ firstSymbol other us = none ∧
      symbolBeside other w = some c := by
  induction ws with
  | nil => cases h
  | cons w ws ih =>
    rw [firstSymbol] at h
    cases hw : symbolBeside other w with
    | some d =>
      rw [hw] at h
      cases h
      exact ⟨[], w, rfl, rfl, hw⟩
    | none =>
      rw [hw] at h
      obtain ⟨us, v, rfl, hus, hv⟩ := ih h
      exact ⟨w :: us, v, rfl, by rw [firstSymbol, hw]; exact hus, hv⟩

namespace Shell

variable {sh sh' : Shell} {s r : Symbols} {q : Press × Answers} {qs : List (Press × Answers)}
  {m : Mode} {o : Option Symbols} {w : List Char} {text : Option String}

/-! ### What Enter takes -/

lemma typedSymbols_eq_ok :
    sh.typedSymbols = .ok s ↔ ∃ c, sh.input = [c] ∧ Usable c ∧
      (if sh.mode = .trueSymbol then sh.symbols.withTrue c
        else (sh.pending.getD sh.symbols).withFalse c) = .ok s := by
  constructor
  · intro h
    cases hc : Symbols.readChar sh.input with
    | error e =>
      unfold typedSymbols at h
      rw [hc] at h
      cases h
    | ok c =>
      obtain ⟨hinput, husable⟩ := Symbols.readChar_eq_ok.1 hc
      exact ⟨c, hinput, husable, (typedSymbols_eq hc).symm.trans h⟩
  · rintro ⟨c, hinput, husable, h⟩
    rwa [typedSymbols_eq (Symbols.readChar_eq_ok.2 ⟨hinput, husable⟩)]

/-- The symbol for true has to go with the one for false in force. -/
lemma typedSymbols_true (hm : sh.mode = .trueSymbol) :
    sh.typedSymbols = .ok s ↔
      symbolBeside sh.symbols.forFalse sh.input = some s.forTrue ∧
        s.forFalse = sh.symbols.forFalse := by
  rw [typedSymbols_eq_ok, symbolBeside_eq_some]
  constructor
  · rintro ⟨c, hinput, husable, h⟩
    rw [if_pos hm] at h
    obtain ⟨rfl, hfalse⟩ := Symbols.ofChars_eq_ok.1 h
    exact ⟨⟨hinput, husable, hfalse ▸ s.distinct⟩, hfalse⟩
  · rintro ⟨⟨hinput, husable, -⟩, hfalse⟩
    refine ⟨s.forTrue, hinput, husable, ?_⟩
    rw [if_pos hm]
    exact Symbols.ofChars_eq_ok.2 ⟨rfl, hfalse⟩

/-- The symbol for false has to go with the new one for true. -/
lemma typedSymbols_false (hm : sh.mode = .falseSymbol) (hr : sh.pending = some r) :
    sh.typedSymbols = .ok s ↔
      symbolBeside r.forTrue sh.input = some s.forFalse ∧ s.forTrue = r.forTrue := by
  have hmode : sh.mode ≠ .trueSymbol := by
    rw [hm]
    nofun
  rw [typedSymbols_eq_ok, symbolBeside_eq_some, hr]
  constructor
  · rintro ⟨c, hinput, husable, h⟩
    rw [if_neg hmode] at h
    obtain ⟨htrue, rfl⟩ := Symbols.ofChars_eq_ok.1 h
    exact ⟨⟨hinput, husable, fun he => s.distinct (htrue.trans he.symm)⟩, htrue⟩
  · rintro ⟨⟨hinput, husable, -⟩, htrue⟩
    refine ⟨s.forFalse, hinput, husable, ?_⟩
    rw [if_neg hmode]
    exact Symbols.ofChars_eq_ok.2 ⟨htrue, rfl⟩

lemma submitSymbol_of_error {e : SymbolError} (h : sh.typedSymbols = .error e) :
    sh.submitSymbol = { sh with status := some s!"Invalid input: {e.message}" }.clearInput := by
  rw [submitSymbol, h]

lemma submitSymbol_of_true (hm : sh.mode = .trueSymbol) (h : sh.typedSymbols = .ok s) :
    sh.submitSymbol =
      { sh with pending := some s, mode := .falseSymbol, status := none }.clearInput := by
  rw [submitSymbol, h]
  simp only [hm]

lemma submitSymbol_of_false (hm : sh.mode = .falseSymbol) (h : sh.typedSymbols = .ok s) :
    sh.submitSymbol = (sh.define s).clearInput := by
  rw [submitSymbol, h]
  simp only [hm]

/-- Enter submits the line. What more it can do, if the symbols have changed, is to tell that they
are not saved. -/
lemma resume_submitSymbol (hm : sh.mode = .trueSymbol ∨ sh.mode = .falseSymbol)
    (hq : q.1.key = .enter) :
    ∃ next, (sh.press q.1).resume q.2 = some next ∧
      (next = sh.submitSymbol ∨ sh.submitSymbol.symbols ≠ sh.symbols ∧
        ∃ reason, next = sh.submitSymbol.symbolsUnsaved reason) := by
  have hpress : sh.press q.1 = sh.submitSymbolKey := by
    rcases hm with hm | hm <;> simp only [press, hm, symbolKey, hq]
  rw [hpress]
  simp only [submitSymbolKey]
  split
  · exact ⟨_, rfl, .inl rfl⟩
  · rename_i hne
    split
    · exact ⟨_, rfl, .inl rfl⟩
    · refine ⟨_, rfl, ?_⟩
      cases q.2.written with
      | ok _ => exact .inl rfl
      | error e => exact .inr ⟨hne, e.message, rfl⟩

/-! ### Keys that lead to a state -/

/-- The keys lead to a state of this kind, with or without the control key and whatever the outside
answers. -/
def Leads (sh : Shell) (ks : List Key) (P : Shell → Prop) : Prop :=
  ∀ qs : List (Press × Answers), qs.map (·.1.key) = ks → ∃ sh', sh.pressed qs = some sh' ∧ P sh'

variable {P Q : Shell → Prop} {ks ls : List Key}

lemma leads_nil (h : P sh) : sh.Leads [] P := by
  intro qs hqs
  rw [List.map_eq_nil_iff] at hqs
  subst hqs
  exact ⟨sh, rfl, h⟩

lemma leads_cons {k : Key} (h : ∀ q : Press × Answers, q.1.key = k →
      ∃ next, (sh.press q.1).resume q.2 = some next ∧ next.Leads ks P) :
    sh.Leads (k :: ks) P := by
  intro qs hqs
  obtain ⟨q, rs, rfl, hq, hrs⟩ := List.map_eq_cons_iff.1 hqs
  obtain ⟨next, hnext, hleads⟩ := h q hq
  obtain ⟨sh', hsh', hP⟩ := hleads rs hrs
  exact ⟨sh', (pressed_cons hnext).trans hsh', hP⟩

lemma Leads.append (h : sh.Leads ks P) (hnext : ∀ sh', P sh' → sh'.Leads ls Q) :
    sh.Leads (ks ++ ls) Q := by
  intro qs hqs
  obtain ⟨qs₁, qs₂, rfl, h₁, h₂⟩ := List.map_eq_append_iff.1 hqs
  obtain ⟨mid, hmid, hP⟩ := h qs₁ h₁
  obtain ⟨sh', hsh', hQ⟩ := hnext mid hP qs₂ h₂
  exact ⟨sh', (pressed_append hmid qs₂).trans hsh', hQ⟩

/-! ### The dialog -/

/-- The dialog that began in `sh` asks for the symbol for true, or, once there is a half-defined
pair, for that for false. Besides, only line and status differ. -/
def asking (sh : Shell) (o : Option Symbols) (w : List Char) (text : Option String) : Shell :=
  { sh with
    mode := if o.isSome then .falseSymbol else .trueSymbol
    pending := o
    input := w
    cursor := w.length
    status := text }

/-- The symbol beside which the next one has to stand. -/
def partner (sh : Shell) : Option Symbols → Char
  | none => sh.symbols.forFalse
  | some r => r.forTrue

lemma mode_asking (sh : Shell) (o : Option Symbols) (w : List Char) (text : Option String) :
    (sh.asking o w text).mode = .trueSymbol ∨ (sh.asking o w text).mode = .falseSymbol := by
  cases o with
  | none => exact .inl rfl
  | some r => exact .inr rfl

lemma resume_begin (hm : sh.mode = .menu) (hq : q.1 = ⟨.char 'd', false⟩) :
    (sh.press q.1).resume q.2 = some (sh.asking none [] none) := by
  simp only [press, hm, hq, menuKey, Reaction.resume]
  rfl

lemma resume_escape (hq : q.1.key = .escape) :
    ((sh.asking o w text).press q.1).resume q.2 =
      some { sh with
        mode := .menu, pending := none, input := [], cursor := 0, status := text } := by
  have hpress : (sh.asking o w text).press q.1 = .settle (sh.asking o w text).leaveSymbols := by
    rcases mode_asking sh o w text with hm | hm <;> simp only [press, hm, symbolKey, hq]
  rw [hpress]
  rfl

lemma resume_char {c : Char} (hq : q.1.key = .char c) :
    ((sh.asking o w text).press q.1).resume q.2 = some (sh.asking o (w ++ [c]) text) := by
  have hedit : (sh.asking o w text).edit (·.insert c) = sh.asking o (w ++ [c]) text := by
    have hname : (sh.asking o w text).mode.takesName = false := by
      rcases mode_asking sh o w text with hm | hm <;> rw [hm] <;> rfl
    rw [edit, withLine_eq, line_of_takesName_false hname, hname]
    simp [Line.insert, asking]
  have hpress : (sh.asking o w text).press q.1 =
      .settle ((sh.asking o w text).edit (·.insert c)) := by
    rcases mode_asking sh o w text with hm | hm <;> simp only [press, hm, symbolKey, hq, editKey]
  rw [hpress, hedit]
  rfl

lemma leads_typed (sh : Shell) (o : Option Symbols) (v w : List Char) (text : Option String) :
    (sh.asking o v text).Leads (w.map .char) fun sh' => sh' = sh.asking o (v ++ w) text := by
  induction w generalizing v with
  | nil => exact leads_nil (by rw [List.append_nil])
  | cons c w ih =>
    refine leads_cons fun q hq => ⟨_, resume_char hq, ?_⟩
    simpa using ih (v ++ [c])

lemma leads_submission (h : ∀ q : Press × Answers, q.1.key = .enter →
      ∃ next, ((sh.asking o w text).press q.1).resume q.2 = some next ∧ P next) :
    (sh.asking o [] text).Leads (submission w) P := by
  refine (leads_typed sh o [] w text).append ?_
  rintro sh' rfl
  refine leads_cons fun q hq => ?_
  obtain ⟨next, hnext, hP⟩ := h q hq
  exact ⟨next, hnext, leads_nil hP⟩

/-! ### Rejected and accepted strings -/

lemma exists_error_of_rejected (text : Option String) (hw : symbolBeside (sh.partner o) w = none) :
    ∃ e, (sh.asking o w text).typedSymbols = .error e := by
  cases hs : (sh.asking o w text).typedSymbols with
  | error e => exact ⟨e, rfl⟩
  | ok s =>
    have hsome : ∃ c, symbolBeside (sh.partner o) w = some c := by
      cases o with
      | none => exact ⟨_, ((typedSymbols_true rfl).1 hs).1⟩
      | some r => exact ⟨_, ((typedSymbols_false rfl rfl).1 hs).1⟩
    obtain ⟨c, hc⟩ := hsome
    rw [hw] at hc
    cases hc

/-- A rejected string leaves the question open, and the line is empty again. -/
lemma resume_rejected (text : Option String) (hw : symbolBeside (sh.partner o) w = none)
    (hq : q.1.key = .enter) :
    ∃ text', ((sh.asking o w text).press q.1).resume q.2 = some (sh.asking o [] text') := by
  obtain ⟨e, he⟩ := exists_error_of_rejected text hw
  obtain ⟨next, hnext, rfl | ⟨hne, -⟩⟩ := resume_submitSymbol (mode_asking sh o w text) hq
  · rw [hnext, submitSymbol_of_error he]
    exact ⟨_, rfl⟩
  · rw [submitSymbol_of_error he] at hne
    exact absurd rfl hne

lemma resume_forTrue (text : Option String) {t : Char}
    (hw : symbolBeside sh.symbols.forFalse w = some t) (hq : q.1.key = .enter) :
    ∃ s : Symbols, s.forTrue = t ∧ s.forFalse = sh.symbols.forFalse ∧
      ((sh.asking none w text).press q.1).resume q.2 = some (sh.asking (some s) [] none) := by
  obtain ⟨-, husable, hne⟩ := symbolBeside_eq_some.1 hw
  let s : Symbols := ⟨t, sh.symbols.forFalse, hne, husable, sh.symbols.false_usable⟩
  have hs : (sh.asking none w text).typedSymbols = .ok s := (typedSymbols_true rfl).2 ⟨hw, rfl⟩
  refine ⟨s, rfl, rfl, ?_⟩
  obtain ⟨next, hnext, rfl | ⟨hchanged, -⟩⟩ := resume_submitSymbol (mode_asking sh none w text) hq
  · rw [hnext, submitSymbol_of_true rfl hs]
    rfl
  · rw [submitSymbol_of_true rfl hs] at hchanged
    exact absurd rfl hchanged

lemma resume_forFalse (sh : Shell) (text : Option String) {f : Char}
    (hw : symbolBeside r.forTrue w = some f) (hq : q.1.key = .enter) :
    ∃ (s : Symbols) (text' : Option String), s.forTrue = r.forTrue ∧ s.forFalse = f ∧
      ((sh.asking (some r) w text).press q.1).resume q.2 =
        some { sh with
          settings := { sh.settings with symbols := s }
          mode := .menu, pending := none, input := [], cursor := 0, status := text' } := by
  obtain ⟨-, husable, hne⟩ := symbolBeside_eq_some.1 hw
  let s : Symbols := ⟨r.forTrue, f, hne.symm, r.true_usable, husable⟩
  have hs : (sh.asking (some r) w text).typedSymbols = .ok s :=
    (typedSymbols_false rfl rfl).2 ⟨hw, rfl⟩
  obtain ⟨next, hnext, rfl | ⟨-, reason, rfl⟩⟩ :=
    resume_submitSymbol (mode_asking sh (some r) w text) hq
  · rw [submitSymbol_of_false rfl hs] at hnext
    exact ⟨s, _, rfl, rfl, hnext⟩
  · rw [submitSymbol_of_false rfl hs] at hnext
    exact ⟨s, _, rfl, rfl, hnext⟩

/-! ### Strings one after the other -/

lemma leads_rejected {ws : List (List Char)} (hws : firstSymbol (sh.partner o) ws = none) :
    (sh.asking o [] text).Leads (ws.flatMap submission) fun sh' =>
      ∃ text', sh' = sh.asking o [] text' := by
  induction ws generalizing text with
  | nil => exact leads_nil ⟨text, rfl⟩
  | cons w ws ih =>
    rw [firstSymbol] at hws
    cases hw : symbolBeside (sh.partner o) w with
    | some c =>
      rw [hw] at hws
      cases hws
    | none =>
      rw [hw] at hws
      have hfirst : (sh.asking o [] text).Leads (submission w) fun sh' =>
          ∃ text', sh' = sh.asking o [] text' := by
        refine leads_submission fun q hq => ?_
        obtain ⟨text', hnext⟩ := resume_rejected text hw hq
        exact ⟨_, hnext, text', rfl⟩
      refine hfirst.append ?_
      rintro _ ⟨text', rfl⟩
      exact ih hws

/-- Strings that are rejected, one that is accepted, and what follows. -/
lemma leads_first {c : Char} {ws later : List (List Char)}
    (hws : firstSymbol (sh.partner o) ws = some (c, later))
    (haccept : ∀ w text, symbolBeside (sh.partner o) w = some c → ∀ q : Press × Answers,
      q.1.key = .enter → ∃ next, ((sh.asking o w text).press q.1).resume q.2 = some next ∧ P next)
    (hlater : ∀ next, P next → next.Leads (later.flatMap submission) Q) :
    (sh.asking o [] text).Leads (ws.flatMap submission) Q := by
  obtain ⟨us, w, rfl, hus, hw⟩ := firstSymbol_eq_some hws
  rw [List.flatMap_append, List.flatMap_cons]
  refine (leads_rejected hus).append ?_
  rintro _ ⟨text', rfl⟩
  exact (leads_submission (haccept w text' hw)).append hlater

/-- The first question is answered. -/
lemma leads_forTrue {t : Char} {ws later : List (List Char)}
    (hws : firstSymbol sh.symbols.forFalse ws = some (t, later))
    (hlater : ∀ s : Symbols, s.forTrue = t → s.forFalse = sh.symbols.forFalse →
      (sh.asking (some s) [] none).Leads (later.flatMap submission) Q) :
    (sh.asking none [] text).Leads (ws.flatMap submission) Q := by
  refine leads_first (o := none) (P := fun next => ∃ s : Symbols, s.forTrue = t ∧
    s.forFalse = sh.symbols.forFalse ∧ next = sh.asking (some s) [] none) hws
    (fun w text hw q hq => ?_) ?_
  · obtain ⟨s, htrue, hfalse, hnext⟩ := resume_forTrue text hw hq
    exact ⟨_, hnext, s, htrue, hfalse, rfl⟩
  · rintro _ ⟨s, htrue, hfalse, rfl⟩
    exact hlater s htrue hfalse

lemma leads_asking_true {ws : List (List Char)} (w : List Char)
    (hws : firstSymbol sh.symbols.forFalse ws = none) :
    (sh.asking none [] text).Leads (ws.flatMap submission ++ w.map .char) fun sh' =>
      ∃ text', sh' = sh.asking none w text' := by
  refine (leads_rejected (o := none) hws).append ?_
  rintro _ ⟨text', rfl⟩
  intro qs hqs
  obtain ⟨sh', hsh', rfl⟩ := leads_typed sh none [] w text' qs hqs
  exact ⟨_, hsh', text', rfl⟩

lemma leads_asking_false {t : Char} {ws later : List (List Char)} (w : List Char)
    (hws : firstSymbol sh.symbols.forFalse ws = some (t, later))
    (hlater : firstSymbol t later = none) :
    (sh.asking none [] text).Leads (ws.flatMap submission ++ w.map .char) fun sh' =>
      ∃ (s : Symbols) (text' : Option String), s.forTrue = t ∧ s.forFalse = sh.symbols.forFalse ∧
        sh' = sh.asking (some s) w text' := by
  have hanswered : (sh.asking none [] text).Leads (ws.flatMap submission) fun sh' =>
      ∃ (s : Symbols) (text' : Option String), s.forTrue = t ∧ s.forFalse = sh.symbols.forFalse ∧
        sh' = sh.asking (some s) [] text' := by
    refine leads_forTrue hws fun s htrue hfalse qs hqs => ?_
    obtain ⟨_, hsh', text', rfl⟩ := leads_rejected (o := some s) (htrue ▸ hlater) qs hqs
    exact ⟨_, hsh', s, text', htrue, hfalse, rfl⟩
  refine hanswered.append ?_
  rintro _ ⟨s, text', htrue, hfalse, rfl⟩ qs hqs
  obtain ⟨sh', hsh', rfl⟩ := leads_typed sh (some s) [] w text' qs hqs
  exact ⟨_, hsh', s, text', htrue, hfalse, rfl⟩

lemma leads_defined {t f : Char} {ws later : List (List Char)}
    (hws : firstSymbol sh.symbols.forFalse ws = some (t, later))
    (hlater : firstSymbol t later = some (f, [])) :
    (sh.asking none [] text).Leads (ws.flatMap submission) fun sh' =>
      ∃ (s : Symbols) (text' : Option String), s.forTrue = t ∧ s.forFalse = f ∧
        sh' = { sh with
          settings := { sh.settings with symbols := s }
          mode := .menu, pending := none, input := [], cursor := 0, status := text' } := by
  refine leads_forTrue hws fun r htrue _ => ?_
  subst htrue
  refine leads_first (o := some r) hlater (fun w text' hw q hq => ?_)
    fun next hnext => leads_nil hnext
  obtain ⟨s, text'', htrue, hfalse, hnext⟩ := resume_forFalse sh text' hw hq
  exact ⟨_, hnext, s, text'', htrue, hfalse, rfl⟩

/-- What the outcome of a dialog is when it is left: the state before it, with another status. A
dialog that begins then goes as it would have gone before. -/
def Abandons (sh : Shell) (d : Press × Answers) (sh' : Shell) : Prop :=
  ∀ q : Press × Answers, q.1.key = .escape →
    ∃ out, (sh'.press q.1).resume q.2 = some out ∧ out = { sh with status := sh'.status } ∧
      ∀ qs, out.pressed (d :: qs) = sh.pressed (d :: qs)

lemma abandons_asking (h : sh.Coherent) (hm : sh.mode = .menu) {d : Press × Answers}
    (hd : d.1 = ⟨.char 'd', false⟩) (o : Option Symbols) (w : List Char) (text : Option String) :
    sh.Abandons d (sh.asking o w text) := by
  intro q hq
  obtain ⟨ht, hn, -, hf⟩ := idle_of_view (.inl hm)
  have hback : ({ sh with
      mode := .menu, pending := none, input := [], cursor := 0, status := text } : Shell) =
      { sh with status := text } := by
    rw [← hm, ← h.pending_none hf, ← h.input_nil ht, ← h.cursor_zero ht hn]
  refine ⟨_, resume_escape hq, hback, fun qs => ?_⟩
  have hagain : (({ sh with status := text } : Shell).press d.1).resume d.2 =
      some (sh.asking none [] none) := resume_begin hm hd
  rw [hback, pressed_cons hagain, pressed_cons (resume_begin hm hd)]

/-- **Symbols are defined together or not at all.** `d` at the menu begins a dialog, in which
strings are typed and submitted, and at last a part of one is typed. As long as no string spells a
symbol beside the one for false in force, the dialog asks for the symbol for true; the first that
does becomes half of a new pair, and then the dialog asks for the symbol for false until a string
spells one beside the new one. Up to there nothing but line, status and the half-defined pair
differs from the state before the dialog, every rejected string leaves the question as it is and the
line empty, and Esc leads back. With the second accepted string the pair is in force and the menu is
back. -/
theorem symbols_defined_together {sh : Shell} (h : sh.Reached) (hm : sh.mode = .menu)
    {d : Press × Answers} (hd : d.1 = ⟨.char 'd', false⟩) (ws : List (List Char)) (w : List Char)
    {qs : List (Press × Answers)}
    (hqs : qs.map (·.1.key) = ws.flatMap submission ++ w.map .char) :
    ∃ sh', sh.pressed (d :: qs) = some sh' ∧
      (firstSymbol sh.symbols.forFalse ws = none →
        (∃ text, sh' = { sh with
          mode := .trueSymbol, pending := none, input := w, cursor := w.length, status := text }) ∧
        sh.Abandons d sh') ∧
      (∀ t later, firstSymbol sh.symbols.forFalse ws = some (t, later) →
        firstSymbol t later = none →
        (∃ (s : Symbols) (text : Option String), s.forTrue = t ∧ s.forFalse = sh.symbols.forFalse ∧
          sh' = { sh with
            mode := .falseSymbol, pending := some s, input := w, cursor := w.length
            status := text }) ∧
        sh.Abandons d sh') ∧
      (∀ t f later, firstSymbol sh.symbols.forFalse ws = some (t, later) →
        firstSymbol t later = some (f, []) → w = [] →
        ∃ (s : Symbols) (text : Option String), s.forTrue = t ∧ s.forFalse = f ∧
          sh' = { sh with
            settings := { sh.settings with symbols := s }
            mode := .menu, pending := none, input := [], cursor := 0, status := text }) := by
  have hbegin : (sh.press d.1).resume d.2 = some (sh.asking none [] none) := resume_begin hm hd
  obtain ⟨sh', hsh', -⟩ := h.coherent.pressed (d :: qs)
  -- What the keys lead to is what is so of this state.
  have hled {P : Shell → Prop}
      (hP : (sh.asking none [] none).Leads (ws.flatMap submission ++ w.map .char) P) : P sh' := by
    obtain ⟨sh₁, hsh₁, hP₁⟩ := hP qs hqs
    rw [pressed_cons hbegin, hsh₁] at hsh'
    cases hsh'
    exact hP₁
  refine ⟨sh', hsh', fun hws => ?_, fun t later hws hlater => ?_, fun t f later hws hlater hw => ?_⟩
  · obtain ⟨text, rfl⟩ := hled (leads_asking_true w hws)
    exact ⟨⟨text, rfl⟩, abandons_asking h.coherent hm hd none w text⟩
  · obtain ⟨s, text, htrue, hfalse, rfl⟩ := hled (leads_asking_false w hws hlater)
    exact ⟨⟨s, text, htrue, hfalse, rfl⟩, abandons_asking h.coherent hm hd (some s) w text⟩
  · rw [hw, List.map_nil, List.append_nil] at hled
    exact hled (leads_defined hws hlater)

/-- Each symbol is refused once, the one for true as the old one for false and the one for false as
the new one for true. -/
theorem symbols_defined_together_digits :
    let ws : List (List Char) := [['F'], ['1'], ['1'], ['0']]
    ∃ sh, (start .standard none).pressed
        (unread (.char 'd') :: (ws.flatMap submission).map unread) = some sh ∧
      firstSymbol 'F' ws = some ('1', [['1'], ['0']]) ∧
      firstSymbol '1' [['1'], ['0']] = some ('0', []) ∧
      sh.mode = .menu ∧ sh.symbols.forTrue = '1' ∧ sh.symbols.forFalse = '0' := by
  intro ws
  have hreached : (start .standard none).Reached := ⟨_, _, none, [], rfl⟩
  have hkeys : ((ws.flatMap submission).map unread).map (·.1.key) =
      ws.flatMap submission ++ ([] : List Char).map .char := rfl
  obtain ⟨sh, hsh, -, -, hdefined⟩ := symbols_defined_together hreached rfl
    (d := unread (.char 'd')) rfl ws [] hkeys
  obtain ⟨s, text, htrue, hfalse, rfl⟩ := hdefined '1' '0' _ rfl rfl rfl
  exact ⟨_, hsh, rfl, rfl, rfl, htrue, hfalse⟩

end Shell

end BoolCalc
