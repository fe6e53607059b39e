import Mathlib.Data.List.Basic
import BoolCalc.Proofs.Diagnosis

/-!
# The place of a fault

A fault at a character is found as early as it can be: what stands before the character is the
beginning of some expression, and no expression begins with it and the character. To see this the
pass of the diagnosis is cut into the characters that are read and the end of the text. From
whatever the pass remembers some text leads to a good end, and once a character is at fault nothing
that follows can mend it.
-/

namespace BoolCalc

open Text (isBlank)

variable (s : Symbols)

namespace Checker

/-- The memory after one more character, which stands at `position`. -/
def readChar (k : Checker) (position : ℕ) (c : Char) : Except Malformed Checker :=
  if isBlank c then .ok k
  else
    match Token.ofChar? s c with
    | none => .error (.unrecognized c position)
    | some t => k.read position t

/-- The memory after the characters from `position` on, or the first fault among them. -/
def run (position : ℕ) (k : Checker) : List Char → Except Malformed Checker
  | [] => .ok k
  | c :: cs => (k.readChar s position c).bind fun k' => run (position + 1) k' cs

lemma run_append (position : ℕ) (k : Checker) (cs ds : List Char) :
    run s position k (cs ++ ds) =
      (run s position k cs).bind fun k' => run s (position + cs.length) k' ds := by
  induction cs generalizing position k with
  | nil => rfl
  | cons c cs ih =>
    have hlen : position + 1 + cs.length = position + (c :: cs).length := by
      rw [List.length_cons]
      omega
    rw [List.cons_append, run, run]
    cases k.readChar s position c with
    | error e => rfl
    | ok k' =>
      simp only [Except.bind]
      rw [ih, hlen]
      rfl

/-- The verdict is that of the end of the text, unless a character is at fault. -/
lemma check_eq_run (position : ℕ) (k : Checker) (cs : List Char) :
    check s position k cs = (run s position k cs).bind atEnd := by
  induction cs generalizing position k with
  | nil => rfl
  | cons c cs ih =>
    rw [check, run, readChar]
    by_cases hc : isBlank c = true
    · rw [if_pos hc, if_pos hc, ih]
      rfl
    · rw [if_neg hc, if_neg hc]
      cases Token.ofChar? s c with
      | none => rfl
      | some t =>
        cases hr : k.read position t with
        | error e => simp only [hr]; rfl
        | ok k' =>
          simp only [hr, ih]
          rfl

lemma check_append (position : ℕ) (k : Checker) (cs ds : List Char) :
    check s position k (cs ++ ds) =
      (run s position k cs).bind fun k' => check s (position + cs.length) k' ds := by
  rw [check_eq_run, run_append]
  cases run s position k cs with
  | error e => rfl
  | ok k' => exact (check_eq_run s _ k' ds).symm

lemma check_cons {position : ℕ} {k k' : Checker} {c : Char} (h : k.readChar s position c = .ok k')
    (cs : List Char) : check s position k (c :: cs) = check s (position + 1) k' cs := by
  rw [check_eq_run, check_eq_run, run, h]
  rfl

/-! ### Every memory has a good end -/

lemma readChar_spell {k : Checker} {position : ℕ} {t : Token} (h : k.fault? position t = none) :
    k.readChar s position (t.spell s) = .ok (k.advance position t) := by
  rw [readChar, Token.isBlank_spell, if_neg (by decide), Token.ofChar?_spell]
  simp only [read, h]

/-- After an operand the open parentheses can be closed. -/
lemma check_closings (position : ℕ) (k : Checker) (hk : k.expectsOperand = false) :
    check s position k (List.replicate k.opened.length ')') = .ok () := by
  obtain ⟨previous, opened⟩ := k
  induction opened generalizing position previous with
  | nil =>
    rw [List.length_nil, List.replicate_zero, check, atEnd, hk]
    rfl
  | cons q qs ih =>
    have hfault : (⟨previous, q :: qs⟩ : Checker).fault? position .closing = none := by
      simp [fault?, hk]
    have hread : (⟨previous, q :: qs⟩ : Checker).readChar s position ')' =
        .ok ⟨some .closing, qs⟩ := readChar_spell s hfault
    rw [List.length_cons, List.replicate_succ, check_cons s hread]
    exact ih (position + 1) (some .closing) rfl

/-- **From every memory some text leads to a good end**: an operand where one is expected, and
then the parentheses that are missing. -/
lemma exists_check_ok (position : ℕ) (k : Checker) : ∃ ds, check s position k ds = .ok () := by
  cases hk : k.expectsOperand with
  | false => exact ⟨_, check_closings s position k hk⟩
  | true =>
    have hfault : k.fault? position (.literal true) = none := by simp [fault?, hk]
    refine ⟨Token.spell s (.literal true) :: List.replicate k.opened.length ')', ?_⟩
    rw [check_cons s (readChar_spell s hfault)]
    exact check_closings s (position + 1) (k.advance position (.literal true)) rfl

/-! ### The place of a fault in the text -/

/-- A token at fault is refused at its own place, and for want of an open parenthesis only if it is
a closing one. -/
lemma fault?_eq_some {k : Checker} {position : ℕ} {t : Token} {e : Malformed}
    (h : k.fault? position t = some e) :
    e.position? = some position ∧ ∀ q, e = .unmatched q → t = .closing := by
  rcases t with b | op | _ | _
  · cases hk : k.expectsOperand <;> simp only [fault?, hk] at h
    · cases h
      exact ⟨rfl, by simp⟩
    · cases h
  · rcases op.eq_not_or_connective with rfl | ⟨c, rfl⟩
    · cases hk : k.expectsOperand <;> simp only [fault?, hk] at h
      · cases h
        exact ⟨rfl, by simp⟩
      · cases h
    · rw [fault?_connective] at h
      split at h
      · split at h <;> cases h <;> exact ⟨rfl, by simp⟩
      · cases h
  · cases hk : k.expectsOperand <;> simp only [fault?, hk] at h
    · cases h
      exact ⟨rfl, by simp⟩
    · cases h
  · refine ⟨?_, fun _ _ => rfl⟩
    cases hk : k.expectsOperand <;> simp only [fault?, hk] at h
    · split at h <;> cases h
      rfl
    · cases h
      rfl

lemma readChar_eq_error {k : Checker} {position : ℕ} {c : Char} {e : Malformed}
    (h : k.readChar s position c = .error e) :
    e.position? = some position ∧ ∀ q, e = .unmatched q → c = ')' := by
  rw [readChar] at h
  split at h
  · cases h
  · cases ht : Token.ofChar? s c with
    | none =>
      rw [ht] at h
      cases h
      exact ⟨rfl, by simp⟩
    | some t =>
      cases hf : k.fault? position t with
      | none => simp [ht, read, hf] at h
      | some e' =>
        simp only [ht, read, hf] at h
        cases h
        obtain ⟨hpos, hclosing⟩ := fault?_eq_some hf
        refine ⟨hpos, fun q hq => ?_⟩
        rw [Token.eq_spell_of_ofChar? s ht, hclosing q hq]
        rfl

/-- **A run stops at the character at fault**: up to there it succeeds, and with that character the
fault is found. -/
lemma run_eq_error {position : ℕ} {k : Checker} {cs : List Char} {e : Malformed}
    (h : run s position k cs = .error e) :
    ∃ n < cs.length, e.position? = some (position + n) ∧
      (∀ q, e = .unmatched q → cs[n]? = some ')') ∧
      (∃ k', run s position k (cs.take n) = .ok k') ∧
      run s position k (cs.take (n + 1)) = .error e := by
  induction cs generalizing position k with
  | nil => cases h
  | cons c cs ih =>
    rw [run] at h
    cases hr : k.readChar s position c with
    | error e' =>
      rw [hr] at h
      cases h
      obtain ⟨hpos, hclosing⟩ := readChar_eq_error s hr
      refine ⟨0, Nat.succ_pos _, hpos, fun q hq => ?_, ⟨k, rfl⟩, ?_⟩
      · rw [hclosing q hq]
        rfl
      · rw [List.take_succ_cons, run, hr]
        rfl
    | ok k₁ =>
      rw [hr] at h
      obtain ⟨n, hn, hpos, hclosing, ⟨k', hok⟩, herr⟩ := ih h
      refine ⟨n + 1, Nat.succ_lt_succ hn, ?_, hclosing, ⟨k', ?_⟩, ?_⟩
      · rw [hpos]
        congr 1
        omega
      · rw [List.take_succ_cons, run, hr]
        exact hok
      · rw [List.take_succ_cons, run, hr]
        exact herr

/-- What one character adds to the open parentheses is its own place, if it is one. -/
lemma opened_of_readChar {k k' : Checker} {position q : ℕ} {c : Char}
    (h : k.readChar s position c = .ok k') (hq : q ∈ k'.opened) :
    q ∈ k.opened ∨ q = position ∧ c = '(' := by
  rw [readChar] at h
  split at h
  · cases h
    exact .inl hq
  · cases ht : Token.ofChar? s c with
    | none => simp [ht] at h
    | some t =>
      cases hf : k.fault? position t with
      | some e => simp [ht, read, hf] at h
      | none =>
        simp only [ht, read, hf] at h
        cases h
        rcases t with b | op | _ | _
        · exact .inl hq
        · exact .inl hq
        · rcases List.mem_cons.1 hq with rfl | hq
          · exact .inr ⟨rfl, Token.eq_spell_of_ofChar? s ht⟩
          · exact .inl hq
        · exact .inl (List.mem_of_mem_tail hq)

/-- **The open parentheses of a run stand in the text.** -/
lemma opened_of_run {position q : ℕ} {k k' : Checker} {cs : List Char}
    (h : run s position k cs = .ok k') (hq : q ∈ k'.opened) :
    q ∈ k.opened ∨ ∃ n, q = position + n ∧ cs[n]? = some '(' := by
  induction cs generalizing position k with
  | nil =>
    cases h
    exact .inl hq
  | cons c cs ih =>
    rw [run] at h
    cases hr : k.readChar s position c with
    | error e => simp [hr, Except.bind] at h
    | ok k₁ =>
      rw [hr] at h
      rcases ih h with hq | ⟨n, rfl, hn⟩
      · rcases opened_of_readChar s hr hq with hq | ⟨rfl, rfl⟩
        · exact .inl hq
        · exact .inr ⟨0, rfl, rfl⟩
      · exact .inr ⟨n + 1, by omega, hn⟩

end Checker

/-- The text is not at fault but ends too soon: it is blank, an operand is missing at its end, or a
parenthesis is still open there. -/
def Malformed.EndsTooSoon (cs : List Char) (e : Malformed) : Prop :=
  e = .empty ∨ e = .unfinished ∨ ∃ p, e = .unmatched p ∧ cs[p]? = some '('

/-- Some expression begins with the characters `cs`. -/
def Viable (cs : List Char) : Prop := ∃ ds ts, toRpn s (cs ++ ds) = .ok ts

/-- A text that is not blank gets the verdict of the pass from its start. -/
lemma outcome_toRpn {cs : List Char} (hb : ¬ cs.all isBlank = true) :
    (toRpn s cs).map (fun _ => ()) = Checker.check s 0 .start cs := by
  have hrun := Conversion.outcome_scanFrom s Conversion.flagFollows_start 0 cs
  rw [← Conversion.watched_start, ← hrun, toRpn_eq]
  cases hscan : Lexeme.scan s cs with
  | nil => exact absurd ((Lexeme.scanFrom_eq_nil_iff s 0 cs).1 hscan) hb
  | cons x xs => rw [← Lexeme.scan, hscan]; rfl

lemma toRpn_of_blank {cs : List Char} (hb : cs.all isBlank = true) :
    toRpn s cs = .error .empty := by
  rw [toRpn_eq, Lexeme.scan, (Lexeme.scanFrom_eq_nil_iff s 0 cs).2 hb]

lemma run_of_blank {cs : List Char} (hb : cs.all isBlank = true) (position : ℕ) (k : Checker) :
    Checker.run s position k cs = .ok k := by
  induction cs generalizing position with
  | nil => rfl
  | cons c cs ih =>
    rw [List.all_cons, Bool.and_eq_true] at hb
    rw [Checker.run, Checker.readChar, if_pos hb.1]
    exact ih hb.2 (position + 1)

lemma toRpn_ok_iff_check {cs : List Char} :
    (∃ ts, toRpn s cs = .ok ts) ↔ Checker.check s 0 .start cs = .ok () := by
  constructor
  · rintro ⟨ts, h⟩
    exact check_of_toRpn s h
  · intro h
    by_cases hb : cs.all isBlank = true
    · rw [Checker.check_eq_run, run_of_blank s hb] at h
      cases h
    · have hout := outcome_toRpn s hb
      rw [h] at hout
      cases hts : toRpn s cs with
      | ok ts => exact ⟨ts, rfl⟩
      | error e =>
        rw [hts] at hout
        cases hout

/-- A text is viable as long as no character of it is at fault. -/
lemma viable_iff_run {cs : List Char} :
    Viable s cs ↔ ∃ k, Checker.run s 0 .start cs = .ok k := by
  constructor
  · rintro ⟨ds, hok⟩
    have hcheck := (toRpn_ok_iff_check s).1 hok
    rw [Checker.check_append] at hcheck
    cases hrun : Checker.run s 0 .start cs with
    | ok k => exact ⟨k, rfl⟩
    | error e =>
      rw [hrun] at hcheck
      cases hcheck
  · rintro ⟨k, hrun⟩
    obtain ⟨ds, hds⟩ := Checker.exists_check_ok s (0 + cs.length) k
    refine ⟨ds, (toRpn_ok_iff_check s).2 ?_⟩
    rw [Checker.check_append, hrun]
    exact hds

/-- A text is refused at its end or at one of its characters. -/
lemma toRpn_eq_error {cs : List Char} {e : Malformed} (h : toRpn s cs = .error e) :
    (∃ k, Checker.run s 0 .start cs = .ok k) ∧ e.EndsTooSoon cs ∨
      Checker.run s 0 .start cs = .error e := by
  by_cases hb : cs.all isBlank = true
  · rw [toRpn_of_blank s hb] at h
    cases h
    exact .inl ⟨⟨_, run_of_blank s hb 0 .start⟩, .inl rfl⟩
  · have hcheck := outcome_toRpn s hb
    rw [h, Checker.check_eq_run] at hcheck
    cases hrun : Checker.run s 0 .start cs with
    | error e' =>
      rw [hrun] at hcheck
      cases hcheck
      exact .inr rfl
    | ok k =>
      refine .inl ⟨⟨k, rfl⟩, .inr ?_⟩
      rw [hrun] at hcheck
      change Except.error e = k.atEnd at hcheck
      rw [Checker.atEnd] at hcheck
      split at hcheck
      · cases hcheck
        exact .inl rfl
      · cases hopen : k.opened with
        | nil =>
          rw [hopen] at hcheck
          cases hcheck
        | cons p ps =>
          rw [hopen] at hcheck
          cases hcheck
          have hp : p ∈ k.opened := by simp [hopen]
          rcases Checker.opened_of_run s hrun hp with hp | ⟨n, rfl, hn⟩
          · cases hp
          · exact .inr ⟨_, rfl, by rwa [Nat.zero_add]⟩

/-- A fault at a character has its place there, and an unmatched parenthesis there is a closing
one. -/
lemma not_endsTooSoon {cs : List Char} {e : Malformed}
    (h : Checker.run s 0 .start cs = .error e) : ¬ e.EndsTooSoon cs := by
  obtain ⟨n, -, hpos, hclosing, -, -⟩ := Checker.run_eq_error s h
  rintro (rfl | rfl | ⟨p, rfl, hp⟩)
  · cases hpos
  · cases hpos
  · have hn := hclosing p rfl
    obtain rfl : p = n := by
      have := Option.some.inj hpos
      omega
    rw [hp] at hn
    cases hn

/-- **A fault is placed at the first character with which no expression begins.** What stands before
the character begins some expression, and with the character none does; and the texts with which
some expression begins are those that are accepted and those that merely end too soon. -/
theorem fault_at_first_dead_character (cs : List Char) :
    (∀ e, toRpn s cs = .error e → ¬ e.EndsTooSoon cs →
      ∃ p < cs.length, e.position? = some p ∧
        Viable s (cs.take p) ∧ ¬ Viable s (cs.take (p + 1))) ∧
    (Viable s cs ↔
      (∃ ts, toRpn s cs = .ok ts) ∨ ∃ e, toRpn s cs = .error e ∧ e.EndsTooSoon cs) := by
  refine ⟨fun e h hend => ?_, fun hv => ?_, ?_⟩
  · rcases toRpn_eq_error s h with ⟨-, hend'⟩ | hrun
    · exact absurd hend' hend
    · obtain ⟨n, hn, hpos, -, hbefore, hwith⟩ := Checker.run_eq_error s hrun
      rw [Nat.zero_add] at hpos
      refine ⟨n, hn, hpos, (viable_iff_run s).2 hbefore, fun hv => ?_⟩
      obtain ⟨k, hk⟩ := (viable_iff_run s).1 hv
      rw [hwith] at hk
      cases hk
  · obtain ⟨k, hk⟩ := (viable_iff_run s).1 hv
    cases hts : toRpn s cs with
    | ok ts => exact .inl ⟨ts, rfl⟩
    | error e =>
      rcases toRpn_eq_error s hts with ⟨-, hend⟩ | hrun
      · exact .inr ⟨e, rfl, hend⟩
      · rw [hrun] at hk
        cases hk
  · rintro (⟨ts, hts⟩ | ⟨e, he, hend⟩)
    · exact ⟨[], ts, by rwa [List.append_nil]⟩
    · rcases toRpn_eq_error s he with ⟨hrun, -⟩ | hrun
      · exact (viable_iff_run s).2 hrun
      · exact absurd hend (not_endsTooSoon s hrun)

/-- A closing parenthesis without its partner is found where it stands. -/
theorem fault_at_first_dead_character_closing :
    toRpn .standard "(T)) & (".toList = .error (.unmatched 3) ∧
      ¬ (Malformed.unmatched 3).EndsTooSoon "(T)) & (".toList ∧
      Viable .standard "(T)".toList ∧ ¬ Viable .standard "(T))".toList := by
  have herr : toRpn .standard "(T)) & (".toList = .error (.unmatched 3) := rfl
  have hend : ¬ (Malformed.unmatched 3).EndsTooSoon "(T)) & (".toList := by
    rintro (h | h | ⟨p, hp, hchar⟩)
    · cases h
    · cases h
    · cases hp
      exact absurd hchar (by decide)
  obtain ⟨p, -, hp, hviable⟩ := (fault_at_first_dead_character .standard _).1 _ herr hend
  cases hp
  exact ⟨herr, hend, hviable⟩

end BoolCalc
