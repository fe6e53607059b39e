import Mathlib.Data.List.Basic
import BoolCalc.Conversion
import BoolCalc.Proofs.Tree

/-!
# Diagnosis without a stack of operators

Whether a text is an expression, and what is wrong with it if it is not, is told by one pass that
remembers the token before and the places of the open parentheses. The conversion keeps a flag for
the first and moves operators about on the stack that holds its parentheses; here it is shown to
agree with the pass on every text, because the flag is always what the token before says and no
operator that leaves the stack takes a parenthesis with it.
-/

namespace BoolCalc

open Text (isBlank)

variable (s : Symbols)

/-- What the pass remembers: the token read last and the places of the open parentheses, innermost
first. -/
structure Checker where
  previous : Option Token
  opened : List Nat
deriving DecidableEq, Repr

namespace Checker

/-- Nothing is read yet. -/
def start : Checker := ⟨none, []⟩

/-- Whether the next token has to begin an operand. -/
def expectsOperand (k : Checker) : Bool :=
  match k.previous with
  | none | some (.operator _) | some .opening => true
  | some (.literal _) | some .closing => false

/-- What is wrong with a token at `position`. -/
def fault? (k : Checker) (position : Nat) (t : Token) : Option Malformed :=
  match k.expectsOperand, t with
  | true, .literal _ | true, .opening | true, .operator .not => none
  | true, .operator op =>
    match k.previous with
    | some (.operator _) => some (.consecutiveOperators op position)
    | _ => some (.operatorWithoutOperand op position)
  | true, .closing => some (.closingWithoutOperand position)
  | false, .literal _ | false, .opening => some (.operandAfterOperand position)
  | false, .operator .not => some (.consecutiveOperators .not position)
  | false, .operator _ => none
  | false, .closing => if k.opened = [] then some (.unmatched position) else none

/-- The memory after a token at `position`. -/
def advance (k : Checker) (position : Nat) (t : Token) : Checker where
  previous := some t
  opened :=
    match t with
    | .opening => position :: k.opened
    | .closing => k.opened.tail
    | .literal _ | .operator _ => k.opened

/-- The memory after a token that may stand at `position`. -/
def read (k : Checker) (position : Nat) (t : Token) : Except Malformed Checker :=
  match k.fault? position t with
  | some e => .error e
  | none => .ok (k.advance position t)

/-- The verdict at the end of the text. -/
def atEnd (k : Checker) : Except Malformed Unit :=
  if k.expectsOperand then .error .unfinished
  else
    match k.opened with
    | [] => .ok ()
    | p :: _ => .error (.unmatched p)

/-- The pass over the characters from `position` on: the first character at fault decides. -/
def check (position : Nat) (k : Checker) : List Char → Except Malformed Unit
  | [] => k.atEnd
  | c :: cs =>
    if isBlank c then check (position + 1) k cs
    else
      match Token.ofChar? s c with
      | none => .error (.unrecognized c position)
      | some t =>
        match k.read position t with
        | .error e => .error e
        | .ok k' => check (position + 1) k' cs

/-- The verdict on a text. -/
def verdict (cs : List Char) : Except Malformed Unit :=
  if cs.all isBlank then .error .empty else check s 0 start cs

lemma fault?_connective (k : Checker) (position : Nat) (c : Connective) :
    k.fault? position (.operator c.op) =
      if k.expectsOperand then
        match k.previous with
        | some (.operator _) => some (.consecutiveOperators c.op position)
        | _ => some (.operatorWithoutOperand c.op position)
      else none := by
  cases c <;> cases h : k.expectsOperand <;> simp [fault?, h, Connective.op]

end Checker

namespace Pending

/-- Entries that are no parentheses can go without a trace among the open parentheses. -/
lemma openings_dropWhile {p : Pending → Bool} (hp : ∀ x, p x = true → x.opening? = none)
    (ps : List Pending) : (ps.dropWhile p).filterMap opening? = ps.filterMap opening? := by
  induction ps with
  | nil => rfl
  | cons x ps ih =>
    by_cases hx : p x = true
    · rw [List.dropWhile_cons_of_pos hx, List.filterMap_cons_none (hp x hx), ih]
    · rw [List.dropWhile_cons_of_neg hx]

lemma opening?_of_leavesFor {op : Operator} {x : Pending} (h : x.leavesFor op = true) :
    x.opening? = none := by
  cases x with
  | operator _ => rfl
  | opening _ => simp [leavesFor] at h

end Pending

namespace Conversion

/-- What the pass remembers of a conversion. -/
def watched (st : Conversion) : Checker := ⟨st.previous, st.pending.filterMap Pending.opening?⟩

@[simp] lemma watched_start : start.watched = Checker.start := rfl

/-- The flag is what the token before says. -/
def FlagFollows (st : Conversion) : Prop := st.watched.expectsOperand = st.wantsOperand

lemma flagFollows_start : start.FlagFollows := rfl

lemma flagFollows_close {st st' : Conversion} {position : Nat}
    (h : st.close position = .ok st') : st'.FlagFollows := by
  rw [close] at h
  split at h
  · cases h
  · cases h
    rfl

/-- **Step**: every token sets the flag, but for an opening parenthesis. This one leaves it, and is
read only where it is up. -/
lemma flagFollows_of_read {st st' : Conversion} {position : Nat} {t : Token}
    (h : st.read position t = .ok st') : st'.FlagFollows := by
  cases t with
  | literal b =>
    rw [read] at h
    split at h
    · cases h
      rfl
    · cases h
  | operator op =>
    rw [read] at h
    split at h <;> split at h <;> cases h <;> rfl
  | opening =>
    rw [read] at h
    split at h
    · cases h
      exact (‹st.wantsOperand = true›).symm
    · cases h
  | closing =>
    rw [read] at h
    split at h
    · cases h
    · exact flagFollows_close h

/-- **Run**: the flag follows behind every sequence of lexemes. -/
lemma FlagFollows.run {st st' : Conversion} (h : st.FlagFollows) {xs : List Lexeme}
    (hxs : st.run xs = .ok st') : st'.FlagFollows := by
  induction xs generalizing st with
  | nil =>
    cases hxs
    exact h
  | cons x xs ih =>
    rw [run_cons, step, Lexeme.read] at hxs
    cases hx : x.token? with
    | none =>
      rw [hx] at hxs
      cases hxs
    | some t =>
      cases hread : st.read x.position t with
      | error e =>
        simp only [hx, bind, Except.bind, hread] at hxs
        cases hxs
      | ok next =>
        simp only [hx, bind, Except.bind, hread] at hxs
        exact ih (flagFollows_of_read hread) hxs

lemma watched_push (st : Conversion) (op : Operator) (position : Nat) :
    (st.push op).watched = st.watched.advance position (.operator op) := by
  have h := Pending.openings_dropWhile
    (fun x (hx : x.leavesFor op = true) => Pending.opening?_of_leavesFor hx) st.pending
  simp only [push, watched, Checker.advance]
  rw [List.filterMap_cons_none rfl, h]

/-- A closing parenthesis takes the innermost open one, however many operators lie above it. -/
lemma watched_close (st : Conversion) (position : Nat) :
    (st.close position).map watched =
      if st.watched.opened = [] then .error (.unmatched position)
      else .ok (st.watched.advance position .closing) := by
  -- what is dropped are operators, so the first entry that stays is the innermost parenthesis
  have h := Pending.openings_dropWhile (p := fun x => x.opening?.isNone)
    (fun _ hx => Option.isNone_iff_eq_none.1 hx) st.pending
  cases hd : st.pending.dropWhile (·.opening?.isNone) with
  | nil =>
    have hnil : st.watched.opened = [] := by rw [watched, ← h, hd]; rfl
    simp only [close, hd, hnil, if_true]
    rfl
  | cons x rest =>
    have hx := List.head_dropWhile_not (fun y : Pending => y.opening?.isNone) (l := st.pending)
      (by simp [hd])
    simp only [hd, List.head_cons, Option.isNone_eq_false_iff] at hx
    obtain ⟨q, hq⟩ := Option.isSome_iff_exists.1 hx
    have hcons : st.watched.opened = q :: rest.filterMap Pending.opening? := by
      rw [watched, ← h, hd, List.filterMap_cons_some hq]
    simp only [close, hd, hcons, Checker.advance]
    rfl

/-- **Step**: the conversion refuses a token for the reason that the pass gives, and otherwise
both go on alike. -/
lemma watched_read {st : Conversion} (hflag : st.FlagFollows) (position : Nat) (t : Token) :
    (st.read position t).map watched = st.watched.read position t := by
  have hwants : st.watched.expectsOperand = st.wantsOperand := hflag
  cases t with
  | literal b =>
    cases h : st.wantsOperand <;>
      simp only [read, Checker.read, Checker.fault?, hwants, h] <;> rfl
  | operator op =>
    have hpush : (.ok (st.push op).watched : Except Malformed Checker) =
        .ok (st.watched.advance position (.operator op)) := by rw [watched_push]
    rcases op.eq_not_or_connective with rfl | ⟨c, rfl⟩
    · cases h : st.wantsOperand <;>
        simp only [read, Checker.read, Checker.fault?, hwants, h]
      · rfl
      · exact hpush
    · cases h : st.wantsOperand <;>
        simp only [read, Checker.read, Checker.fault?_connective, hwants, h,
          Connective.isUnary_op]
      · exact hpush
      · simp only [operatorFault, watched]
        rcases st.previous with _ | _ | _ | _ | _ <;> rfl
  | opening =>
    cases h : st.wantsOperand <;>
      simp only [read, Checker.read, Checker.fault?, hwants, h] <;> rfl
  | closing =>
    cases h : st.wantsOperand <;>
      simp only [read, Checker.read, Checker.fault?, hwants, h]
    · refine (st.watched_close position).trans ?_
      split <;> rfl
    · rfl

/-- What is left of a conversion when its result is forgotten. -/
def outcome (st : Conversion) (xs : List Lexeme) : Except Malformed Unit :=
  (st.run xs >>= finish).map fun _ => ()

lemma outcome_nil {st : Conversion} (hflag : st.FlagFollows) :
    st.outcome [] = st.watched.atEnd := by
  have hwants : st.watched.expectsOperand = st.wantsOperand := hflag
  have hopen : st.watched.opened.head? = st.pending.findSome? Pending.opening? :=
    List.head?_filterMap
  change st.finish.map _ = _
  cases hw : st.wantsOperand with
  | true => simp only [finish, Checker.atEnd, hwants, hw]; rfl
  | false =>
    simp only [finish, Checker.atEnd, hwants, hw, ← hopen]
    cases st.watched.opened <;> rfl

lemma outcome_cons (st : Conversion) (x : Lexeme) (xs : List Lexeme) :
    st.outcome (x :: xs) =
      match x.token? with
      | none => .error (.unrecognized x.char x.position)
      | some t =>
        match st.read x.position t with
        | .error e => .error e
        | .ok st' => st'.outcome xs := by
  simp only [outcome, run_cons, step, Lexeme.read]
  cases x.token? with
  | none => rfl
  | some t =>
    simp only [Except.bind, bind]
    cases st.read x.position t <;> rfl

/-- **Run**: from states that correspond, conversion and pass come to one verdict. -/
lemma outcome_scanFrom {st : Conversion} (hflag : st.FlagFollows) (position : Nat)
    (cs : List Char) :
    st.outcome (Lexeme.scanFrom s position cs) = Checker.check s position st.watched cs := by
  induction cs generalizing st position with
  | nil => exact outcome_nil hflag
  | cons c cs ih =>
    by_cases hc : isBlank c = true
    · rw [Lexeme.scanFrom, if_pos hc, Checker.check, if_pos hc, ih hflag]
    · rw [Lexeme.scanFrom, if_neg hc, Checker.check, if_neg hc, outcome_cons]
      cases ht : Token.ofChar? s c with
      | none => rfl
      | some t =>
        simp only [← watched_read hflag position t]
        cases hread : st.read position t with
        | error e => rfl
        | ok st' => exact ih (flagFollows_of_read hread) (position + 1)

end Conversion

lemma Lexeme.scanFrom_eq_nil_iff (position : Nat) (cs : List Char) :
    scanFrom s position cs = [] ↔ cs.all isBlank = true := by
  induction cs generalizing position with
  | nil => simp [scanFrom]
  | cons c cs ih => by_cases hc : isBlank c <;> simp [scanFrom, hc, ih]

lemma check_of_toRpn {cs : List Char} {ts : List Token} (h : toRpn s cs = .ok ts) :
    Checker.check s 0 Checker.start cs = .ok () := by
  have hrun : Conversion.start.run (Lexeme.scan s cs) >>= Conversion.finish = .ok ts := by
    rw [toRpn_eq] at h
    split at h
    · cases h
    · exact h
  have hout := Conversion.outcome_scanFrom s Conversion.flagFollows_start 0 cs
  rw [← Lexeme.scan, Conversion.outcome, hrun] at hout
  exact hout.symm

/-- **The conversion gives every text the verdict of the pass**: it accepts the same texts and
refuses the others with the same fault at the same place. -/
theorem toRpn_verdict (cs : List Char) :
    (toRpn s cs).map (fun _ => ()) = Checker.verdict s cs := by
  rw [toRpn_eq, Checker.verdict]
  by_cases hb : cs.all isBlank = true
  · rw [if_pos hb, Lexeme.scan, (Lexeme.scanFrom_eq_nil_iff s 0 cs).2 hb]
    rfl
  · have hscan : Lexeme.scan s cs ≠ [] := fun h => hb ((Lexeme.scanFrom_eq_nil_iff s 0 cs).1 h)
    have hrun := Conversion.outcome_scanFrom s Conversion.flagFollows_start 0 cs
    rw [if_neg hb, ← Conversion.watched_start, ← hrun, ← Lexeme.scan]
    split
    · exact absurd ‹_› hscan
    · rfl

example : Checker.verdict .standard "(!(T & F".toList = .error (.unmatched 2) := by rfl

end BoolCalc
