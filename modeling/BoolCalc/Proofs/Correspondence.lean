import Mathlib.Data.List.Forall2
import BoolCalc.Proofs.Precedence

/-!
# Texts that are classified alike

A conversion sees the characters of a text only as tokens. If two texts have the same tokens, blanks
apart and each under its own symbols, they are converted in lockstep: the states on the way differ
in the places of their open parentheses alone, and these belong to parentheses of the same number in
their texts. So blanks can be put in and left out anywhere, and the symbols exchanged for others.
-/

namespace BoolCalc

open Text (isBlank)
open List (Forall₂)

/-- Two faults of one kind, about one operator, at places that belong together. -/
inductive Malformed.Alike (R : ℕ → ℕ → Prop) : Malformed → Malformed → Prop where
  | unrecognized (c d : Char) {p q : ℕ} (h : R p q) :
    Alike R (.unrecognized c p) (.unrecognized d q)
  | operandAfterOperand {p q : ℕ} (h : R p q) :
    Alike R (.operandAfterOperand p) (.operandAfterOperand q)
  | operatorWithoutOperand (op : Operator) {p q : ℕ} (h : R p q) :
    Alike R (.operatorWithoutOperand op p) (.operatorWithoutOperand op q)
  | consecutiveOperators (op : Operator) {p q : ℕ} (h : R p q) :
    Alike R (.consecutiveOperators op p) (.consecutiveOperators op q)
  | closingWithoutOperand {p q : ℕ} (h : R p q) :
    Alike R (.closingWithoutOperand p) (.closingWithoutOperand q)
  | unfinished : Alike R .unfinished .unfinished
  | unmatched {p q : ℕ} (h : R p q) : Alike R (.unmatched p) (.unmatched q)
  | empty : Alike R .empty .empty

variable {R : ℕ → ℕ → Prop} {s s' : Symbols} {cs ds : List Char}

/-! ### Lockstep -/

/-- Results that belong together, or faults that are alike. -/
inductive Matched (R : ℕ → ℕ → Prop) {α : Type} (S : α → α → Prop) :
    Except Malformed α → Except Malformed α → Prop where
  | ok {a b : α} (h : S a b) : Matched R S (.ok a) (.ok b)
  | error {e f : Malformed} (h : e.Alike R f) : Matched R S (.error e) (.error f)

lemma Matched.bind {α β : Type} {S : α → α → Prop} {T : β → β → Prop} {x y : Except Malformed α}
    {f g : α → Except Malformed β} (h : Matched R S x y)
    (hfg : ∀ a b, S a b → Matched R T (f a) (g b)) : Matched R T (x.bind f) (y.bind g) := by
  cases h with
  | ok h => exact hfg _ _ h
  | error h => exact .error h

inductive Pending.Alike (R : ℕ → ℕ → Prop) : Pending → Pending → Prop where
  | operator (op : Operator) : Alike R (.operator op) (.operator op)
  | opening {p q : ℕ} (h : R p q) : Alike R (.opening p) (.opening q)

lemma Pending.operators_eq {ps qs : List Pending} (h : Forall₂ (Alike R) ps qs) :
    ps.filterMap operator? = qs.filterMap operator? := by
  induction h with
  | nil => rfl
  | cons hxy _ ih =>
    cases hxy with
    | operator op => exact congrArg (op :: ·) ih
    | opening => exact ih

/-- Lists are cut at the same place by a test that entries which belong together both pass or both
fail. -/
lemma forall₂_cut {α : Type} {S : α → α → Prop} {p : α → Bool} (hp : ∀ x y, S x y → p x = p y)
    {xs ys : List α} (h : Forall₂ S xs ys) :
    Forall₂ S (xs.takeWhile p) (ys.takeWhile p) ∧ Forall₂ S (xs.dropWhile p) (ys.dropWhile p) := by
  induction h with
  | nil => exact ⟨.nil, .nil⟩
  | @cons x y xs ys hxy hxs ih =>
    have hy : p y = p x := (hp x y hxy).symm
    simp only [List.takeWhile_cons, List.dropWhile_cons, hy]
    split
    · exact ⟨.cons hxy ih.1, ih.2⟩
    · exact ⟨.nil, .cons hxy hxs⟩

structure Lexeme.Alike (R : ℕ → ℕ → Prop) (x y : Lexeme) : Prop where
  position : R x.position y.position
  token : x.token? = y.token?

namespace Conversion

structure Alike (R : ℕ → ℕ → Prop) (st st' : Conversion) : Prop where
  emitted : st.emitted = st'.emitted
  pending : Forall₂ (Pending.Alike R) st.pending st'.pending
  wantsOperand : st.wantsOperand = st'.wantsOperand
  previous : st.previous = st'.previous

variable {st st' : Conversion}

lemma alike_start : Alike R start start := ⟨rfl, .nil, rfl, rfl⟩

lemma Alike.push (h : Alike R st st') (op : Operator) : Alike R (st.push op) (st'.push op) := by
  have hp : ∀ x y : Pending, Pending.Alike R x y → x.leavesFor op = y.leavesFor op := by
    intro x y hxy
    cases hxy <;> rfl
  obtain ⟨hleave, hstay⟩ := forall₂_cut hp h.pending
  refine ⟨?_, .cons (.operator op) hstay, rfl, rfl⟩
  simp only [Conversion.push, leaving, Pending.operators_eq hleave, h.emitted]

lemma Alike.close (h : Alike R st st') {p q : ℕ} (hpq : R p q) :
    Matched R (Alike R) (st.close p) (st'.close q) := by
  have hp : ∀ x y : Pending, Pending.Alike R x y → x.opening?.isNone = y.opening?.isNone := by
    intro x y hxy
    cases hxy <;> rfl
  obtain ⟨hleave, hstay⟩ := forall₂_cut hp h.pending
  unfold Conversion.close
  cases hd : st.pending.dropWhile (·.opening?.isNone) with
  | nil =>
    rw [hd, List.forall₂_nil_left_iff] at hstay
    rw [hstay]
    exact .error (.unmatched hpq)
  | cons x rest =>
    rw [hd, List.forall₂_cons_left_iff] at hstay
    obtain ⟨y, rest', -, hrest, hd'⟩ := hstay
    rw [hd']
    refine .ok ⟨?_, hrest, rfl, rfl⟩
    simp only [Pending.operators_eq hleave, h.emitted]

lemma Alike.operatorFault (h : Alike R st st') (op : Operator) {p q : ℕ} (hpq : R p q) :
    (st.operatorFault op p).Alike R (st'.operatorFault op q) := by
  unfold Conversion.operatorFault
  rw [h.previous]
  split
  · exact .consecutiveOperators op hpq
  · exact .operatorWithoutOperand op hpq

/-- **Step**: the same token at places that belong together. -/
lemma Alike.read (h : Alike R st st') {p q : ℕ} (hpq : R p q) (t : Token) :
    Matched R (Alike R) (st.read p t) (st'.read q t) := by
  cases t with
  | literal b =>
    simp only [Conversion.read, h.wantsOperand]
    split
    · exact .ok ⟨by rw [h.emitted], h.pending, rfl, rfl⟩
    · exact .error (.operandAfterOperand hpq)
  | operator op =>
    simp only [Conversion.read, h.wantsOperand]
    split
    · split
      · exact .ok (h.push op)
      · exact .error (.consecutiveOperators op hpq)
    · split
      · exact .error (h.operatorFault op hpq)
      · exact .ok (h.push op)
  | opening =>
    simp only [Conversion.read, h.wantsOperand]
    split
    · exact .ok ⟨h.emitted, .cons (.opening hpq) h.pending, rfl, rfl⟩
    · exact .error (.operandAfterOperand hpq)
  | closing =>
    simp only [Conversion.read, h.wantsOperand]
    split
    · exact .error (.closingWithoutOperand hpq)
    · exact h.close hpq

lemma Alike.step (h : Alike R st st') {x y : Lexeme} (hxy : x.Alike R y) :
    Matched R (Alike R) (st.step x) (st'.step y) := by
  have hread : Matched R Eq x.read y.read := by
    unfold Lexeme.read
    rw [hxy.token]
    split
    · exact .ok rfl
    · exact .error (.unrecognized _ _ hxy.position)
  refine hread.bind fun t u htu => ?_
  subst htu
  exact h.read hxy.position t

/-- **Run**: lexemes that belong together one by one lead from states that do to states that do. -/
lemma Alike.run {xs ys : List Lexeme} (hxs : Forall₂ (Lexeme.Alike R) xs ys)
    (h : Alike R st st') : Matched R (Alike R) (st.run xs) (st'.run ys) := by
  induction hxs generalizing st st' with
  | nil => exact .ok h
  | cons hxy _ ih => exact (h.step hxy).bind fun _ _ => ih

lemma Alike.finish (h : Alike R st st') : Matched R Eq st.finish st'.finish := by
  have hopen : Forall₂ R (st.pending.filterMap Pending.opening?)
      (st'.pending.filterMap Pending.opening?) := by
    refine List.rel_filterMap (fun x y hxy => ?_) h.pending
    cases hxy with
    | operator op => exact .none
    | opening hpq => exact .some hpq
  simp only [Conversion.finish, h.wantsOperand, ← List.head?_filterMap,
    Pending.operators_eq h.pending, h.emitted]
  split
  · exact .error .unfinished
  · revert hopen
    generalize st.pending.filterMap Pending.opening? = ps
    generalize st'.pending.filterMap Pending.opening? = qs
    intro hopen
    cases hopen with
    | nil => exact .ok rfl
    | cons hpq _ => exact .error (.unmatched hpq)

end Conversion

/-! ### The numbers of characters -/

/-- The tokens of a text, blanks apart; a character that is no token is `none`. -/
def classes (s : Symbols) (cs : List Char) : List (Option Token) :=
  (cs.filter fun c => !isBlank c).map (Token.ofChar? s)

/-- The number of the character at a place among the characters that are no blanks. -/
def ordinal? (cs : List Char) (p : ℕ) : Option ℕ :=
  match cs[p]? with
  | some c => if isBlank c then none else some ((cs.take p).countP fun c => !isBlank c)
  | none => none

/-- The places of characters that have the same number in their texts. -/
def SameOrdinal (cs ds : List Char) (p q : ℕ) : Prop :=
  ∃ k, ordinal? cs p = some k ∧ ordinal? ds q = some k

lemma ordinal?_scanFrom (before : List Char) {i : ℕ} {x : Lexeme}
    (h : (Lexeme.scanFrom s before.length cs)[i]? = some x) :
    ordinal? (before ++ cs) x.position = some (before.countP (fun c => !isBlank c) + i) := by
  induction cs generalizing before i with
  | nil => simp [Lexeme.scanFrom] at h
  | cons c cs ih =>
    have hmore : (before ++ [c]).length = before.length + 1 := by simp
    have hsplit : before ++ c :: cs = (before ++ [c]) ++ cs := by simp
    rw [Lexeme.scanFrom] at h
    by_cases hc : isBlank c = true
    · rw [if_pos hc, ← hmore] at h
      rw [hsplit, ih (before ++ [c]) h]
      simp [hc]
    · rw [if_neg hc] at h
      cases i with
      | zero =>
        simp only [List.getElem?_cons_zero, Option.some.injEq] at h
        subst h
        simp [ordinal?, hc]
      | succ i =>
        rw [List.getElem?_cons_succ, ← hmore] at h
        rw [hsplit, ih (before ++ [c]) h]
        simp [hc]
        omega

lemma alike_scan (h : classes s cs = classes s' ds) :
    Forall₂ (Lexeme.Alike (SameOrdinal cs ds)) (Lexeme.scan s cs) (Lexeme.scan s' ds) := by
  have htokens : (Lexeme.scan s cs).map (·.token?) = (Lexeme.scan s' ds).map (·.token?) := by
    rw [Lexeme.scan, Lexeme.scan, Lexeme.map_token?_scanFrom, Lexeme.map_token?_scanFrom]
    exact h
  have hlen : (Lexeme.scan s cs).length = (Lexeme.scan s' ds).length := by
    simpa using congrArg List.length htokens
  refine List.forall₂_of_length_eq_of_get hlen fun i hi hi' => ⟨⟨i, ?_, ?_⟩, ?_⟩
  · have hx := ordinal?_scanFrom [] (List.getElem?_eq_getElem hi)
    simpa using hx
  · have hy := ordinal?_scanFrom [] (List.getElem?_eq_getElem hi')
    simpa using hy
  · have hi'' : i < ((Lexeme.scan s cs).map (·.token?)).length := by simpa using hi
    have hget := List.getElem_of_eq htokens hi''
    simpa using hget

/-! ### The symbols exchanged -/

/-- The character for a character when other symbols are put in the place of these. -/
def Symbols.rename (s s' : Symbols) (c : Char) : Char :=
  match s.value? c with
  | some b => s'.spell b
  | none => c

lemma Symbols.isBlank_rename (s s' : Symbols) (c : Char) :
    isBlank (s.rename s' c) = isBlank c := by
  unfold rename
  split
  · rename_i b hb
    rw [eq_spell_of_value? hb, (s.spell_usable b).1, (s'.spell_usable b).1]
  · rfl

lemma Symbols.ofChar?_rename {c : Char} (hc : s.value? c = none → s'.value? c = none) :
    Token.ofChar? s' (s.rename s' c) = Token.ofChar? s c := by
  unfold rename
  cases hv : s.value? c with
  | some b =>
    rw [eq_spell_of_value? hv]
    exact (Token.ofChar?_spell s' (.literal b)).trans (Token.ofChar?_spell s (.literal b)).symm
  | none => simp only [Token.ofChar?, hv, hc hv]

lemma Symbols.classes_rename (h : ∀ c ∈ cs, s.value? c = none → s'.value? c = none) :
    classes s' (cs.map (s.rename s')) = classes s cs := by
  unfold classes
  rw [List.filter_map, List.map_map]
  have hfilter : cs.filter ((fun c => !isBlank c) ∘ s.rename s') = cs.filter fun c => !isBlank c :=
    List.filter_congr fun c _ => by simp [s.isBlank_rename s' c]
  rw [hfilter]
  exact List.map_congr_left fun c hc => ofChar?_rename (h c (List.mem_filter.1 hc).1)

/-- A token that is no literal is spelled with a character of the grammar. -/
lemma mem_reservedChars_of_token {c : Char} {t : Token} (ht : Token.ofChar? s c = some t)
    (hv : s.value? c = none) : c ∈ reservedChars := by
  have hspell : c = t.spell s := Token.eq_spell_of_ofChar? s ht
  subst hspell
  cases t with
  | literal b =>
    rw [Token.spell, s.value?_spell] at hv
    cases hv
  | operator op =>
    change op.symbol ∈ reservedChars
    cases op <;> decide
  | opening =>
    change '(' ∈ reservedChars
    decide
  | closing =>
    change ')' ∈ reservedChars
    decide

/-- In an expression every character has a meaning, so none turns into a symbol by the exchange. -/
lemma value?_of_toRpn {ts : List Token} (h : toRpn s cs = .ok ts) {c : Char} (hc : c ∈ cs)
    (hv : s.value? c = none) : s'.value? c = none := by
  obtain ⟨us, -, hus, -⟩ := tree_of_toRpn h
  rw [Lexeme.tokens_eq_ok_iff, Lexeme.scan, Lexeme.map_token?_scanFrom] at hus
  cases hb : isBlank c with
  | true =>
    cases hv' : s'.value? c with
    | none => rfl
    | some b =>
      have husable := (s'.spell_usable b).1
      rw [← Symbols.eq_spell_of_value? hv', hb] at husable
      cases husable
  | false =>
    have hmem : Token.ofChar? s c ∈ us.map some := by
      rw [← hus]
      exact List.mem_map_of_mem (List.mem_filter.2 ⟨hc, by simp [hb]⟩)
    obtain ⟨t, -, ht⟩ := List.mem_map.1 hmem
    exact s'.value?_of_reserved (mem_reservedChars_of_token ht.symm hv)

/-! ### Two texts -/

/-- Both texts are expressions, with one reverse Polish sequence and one value; or both are refused,
for the same reason and at characters of the same number. -/
def ConvertedAlike (s s' : Symbols) (cs ds : List Char) : Prop :=
  (∃ ts b, toRpn s cs = .ok ts ∧ toRpn s' ds = .ok ts ∧
    compute s cs = .ok (ts, b) ∧ compute s' ds = .ok (ts, b)) ∨
  ∃ e f, toRpn s cs = .error e ∧ toRpn s' ds = .error f ∧ e.Alike (SameOrdinal cs ds) f

lemma matched_toRpn (h : classes s cs = classes s' ds) :
    Matched (SameOrdinal cs ds) Eq (toRpn s cs) (toRpn s' ds) := by
  have hscan := alike_scan h
  rw [toRpn_eq, toRpn_eq]
  revert hscan
  generalize Lexeme.scan s cs = xs
  generalize Lexeme.scan s' ds = ys
  intro hscan
  cases hscan with
  | nil => exact .error .empty
  | cons hxy hxs =>
    exact (Conversion.Alike.run (.cons hxy hxs) Conversion.alike_start).bind
      fun _ _ hst => hst.finish

lemma convertedAlike_of_classes (h : classes s cs = classes s' ds) : ConvertedAlike s s' cs ds := by
  have hrpn := matched_toRpn h
  cases hc : toRpn s cs with
  | error e =>
    cases hd : toRpn s' ds with
    | error f =>
      rw [hc, hd] at hrpn
      cases hrpn with
      | error hef => exact .inr ⟨e, f, hc, hd, hef⟩
    | ok us =>
      rw [hc, hd] at hrpn
      cases hrpn
  | ok ts =>
    obtain ⟨-, t, -, -, rfl⟩ := tree_of_toRpn hc
    cases hd : toRpn s' ds with
    | error f =>
      rw [hc, hd] at hrpn
      cases hrpn
    | ok us =>
      rw [hc, hd] at hrpn
      cases hrpn with
      | ok heq =>
        subst heq
        exact .inl ⟨_, t.value, hc, hd, compute_of_toRpn hc, compute_of_toRpn hd⟩

/-- **Conversion is told by the classes of the characters alone.** Texts that are classified alike,
each under its own symbols, have the same reverse Polish sequence and value, or are refused for the
same reason at characters of the same number. So are texts that differ in their blanks, and a text
in which the symbols are exchanged for others, as long as no other character of it becomes a symbol;
in an expression none does. -/
theorem toRpn_told_by_classes (s s' : Symbols) :
    (∀ cs ds, classes s cs = classes s' ds → ConvertedAlike s s' cs ds) ∧
    (∀ cs ds, (cs.filter fun c => !isBlank c) = (ds.filter fun c => !isBlank c) →
      ConvertedAlike s s cs ds) ∧
    (∀ cs, (∀ c ∈ cs, s.value? c = none → s'.value? c = none) →
      ConvertedAlike s s' cs (cs.map (s.rename s'))) ∧
    ∀ cs ts, toRpn s cs = .ok ts → toRpn s' (cs.map (s.rename s')) = .ok ts := by
  have hrename : ∀ cs, (∀ c ∈ cs, s.value? c = none → s'.value? c = none) →
      ConvertedAlike s s' cs (cs.map (s.rename s')) :=
    fun cs h => convertedAlike_of_classes (Symbols.classes_rename h).symm
  refine ⟨fun cs ds => convertedAlike_of_classes, fun cs ds h => ?_, hrename, fun cs ts h => ?_⟩
  · refine convertedAlike_of_classes ?_
    rw [classes, classes, h]
  · obtain ⟨us, b, hus, hd, -⟩ | ⟨e, -, he, -⟩ := hrename cs fun c hc hv => value?_of_toRpn h hc hv
    · rw [h] at hus
      rw [hd, ← Except.ok.inj hus]
    · rw [h] at he
      cases he

/-- A group that is left open, with other symbols and other blanks, and an expression whose symbols
are exchanged. -/
theorem toRpn_told_by_classes_digits :
    let digits : Symbols := ⟨'1', '0', by decide, by decide, by decide⟩
    classes .standard "T&(F".toList = classes digits " 1 &( 0".toList ∧
      ConvertedAlike .standard digits "T&(F".toList " 1 &( 0".toList ∧
      ("T|F".toList.filter fun c => !isBlank c) = ("\t T| F".toList.filter fun c => !isBlank c) ∧
      ConvertedAlike .standard .standard "T|F".toList "\t T| F".toList ∧
      (∀ c ∈ "F ? 2".toList, Symbols.standard.value? c = none → digits.value? c = none) ∧
      ConvertedAlike .standard digits "F ? 2".toList "0 ? 2".toList ∧
      toRpn .standard "!T".toList = .ok [.literal true, .operator .not] ∧
      toRpn digits "!1".toList = .ok [.literal true, .operator .not] := by
  intro digits
  obtain ⟨hclasses, hblanks, hrename, hok⟩ := toRpn_told_by_classes .standard digits
  have hfree : ∀ c ∈ "F ? 2".toList, Symbols.standard.value? c = none → digits.value? c = none := by
    intro c hc hfree
    change c ∈ ['F', ' ', '?', ' ', '2'] at hc
    simp only [List.mem_cons, List.not_mem_nil, or_false] at hc
    rcases hc with rfl | rfl | rfl | rfl | rfl
    · cases hfree
    all_goals rfl
  exact ⟨rfl, hclasses _ _ rfl, rfl, hblanks _ _ rfl, hfree, hrename "F ? 2".toList hfree, rfl,
    hok "!T".toList _ rfl⟩

end BoolCalc
