import Mathlib.Data.List.Basic
import BoolCalc.Proofs.Diagnosis

/-!
# Two grammars of expressions

The flat grammar says which strings are expressions: operands with binary operators between them,
where an operand is a literal or a group in parentheses after any number of negations. The layered
grammar also says how an expression groups: OR and NAND join what AND and XOR have joined, and
both layers group to the left. Every sentence of the flat grammar has a tree in the layered one,
and a text that the one-pass diagnosis accepts is a sentence of the flat grammar.
-/

namespace BoolCalc

open Text (isBlank)

/-! ### The flat grammar -/

/-- The phrases of the flat grammar. -/
inductive Phrase where
  | expression
  | operand

/-- `Written s p cs`: the characters `cs`, none of them blank, are a phrase of kind `p`. An
expression is a chain of operands with binary operators between them; an operand is a literal or an
expression in parentheses, after any number of NOTs. -/
inductive Written (s : Symbols) : Phrase → List Char → Prop where
  | literal {c : Char} (h : c = s.forTrue ∨ c = s.forFalse) : Written s .operand [c]
  | group {cs : List Char} (h : Written s .expression cs) :
    Written s .operand ('(' :: cs ++ [')'])
  | not {cs : List Char} (h : Written s .operand cs) : Written s .operand ('!' :: cs)
  | operand {cs : List Char} (h : Written s .operand cs) : Written s .expression cs
  | binary {cs ds : List Char} {c : Char} (hc : c ∈ ['&', '|', '@', '$'])
    (h : Written s .expression cs) (h' : Written s .operand ds) :
    Written s .expression (cs ++ c :: ds)

variable {s : Symbols}

lemma Connective.symbol_mem_iff {c : Char} :
    c ∈ ['&', '|', '@', '$'] ↔ ∃ d : Connective, c = d.op.symbol := by
  constructor
  · intro h
    simp only [List.mem_cons, List.not_mem_nil, or_false] at h
    rcases h with rfl | rfl | rfl | rfl
    · exact ⟨.and, rfl⟩
    · exact ⟨.or, rfl⟩
    · exact ⟨.nand, rfl⟩
    · exact ⟨.xor, rfl⟩
  · rintro ⟨d, rfl⟩
    cases d <;> decide

namespace Written

lemma spell (b : Bool) : Written s .operand [s.spell b] := by
  cases b
  · exact literal (.inr rfl)
  · exact literal (.inl rfl)

variable (s)

/-- What may follow an expression without ending it. -/
def Continues (ds : List Char) : Prop :=
  ∀ cs, Written s .expression cs → Written s .expression (cs ++ ds)

/-- What may follow an operand inside `n` open groups, up to the end of the text. -/
def Closes : ℕ → List Char → Prop
  | 0, ds => Continues s ds
  | n + 1, ds => ∃ es rest, ds = es ++ ')' :: rest ∧ Continues s es ∧ Closes n rest

/-- What completes a text inside `n` open groups, where an operand is expected or not. -/
def Completes (expects : Bool) (n : ℕ) (ds : List Char) : Prop :=
  if expects then ∃ es rest, ds = es ++ rest ∧ Written s .operand es ∧ Closes s n rest
  else Closes s n ds

variable {s}

lemma continues_nil : Continues s [] := fun cs h => by simpa using h

lemma Continues.cons {c : Char} {ds es : List Char} (hc : c ∈ ['&', '|', '@', '$'])
    (hd : Written s .operand ds) (he : Continues s es) : Continues s (c :: (ds ++ es)) := by
  intro cs h
  have := he _ (binary hc h hd)
  simpa using this

lemma Closes.cons {n : ℕ} {c : Char} {ds rest : List Char} (hc : c ∈ ['&', '|', '@', '$'])
    (hd : Written s .operand ds) (h : Closes s n rest) : Closes s n (c :: (ds ++ rest)) := by
  cases n with
  | zero => exact Continues.cons hc hd h
  | succ n =>
    obtain ⟨es, rest, rfl, he, hr⟩ := h
    exact ⟨c :: (ds ++ es), rest, by simp, he.cons hc hd, hr⟩

/-- A group closes with the parenthesis that what follows it supplies. -/
lemma Completes.opening {n : ℕ} {ds : List Char} (h : Completes s true (n + 1) ds) :
    Completes s true n ('(' :: ds) := by
  obtain ⟨es, rest, rfl, hes, fs, rest, rfl, hfs, hrest⟩ := h
  exact ⟨'(' :: (es ++ fs) ++ [')'], rest, by simp, group (hfs _ (operand hes)), hrest⟩

lemma Completes.not {n : ℕ} {ds : List Char} (h : Completes s true n ds) :
    Completes s true n ('!' :: ds) := by
  obtain ⟨es, rest, rfl, hes, hrest⟩ := h
  exact ⟨'!' :: es, rest, rfl, hes.not, hrest⟩

lemma Completes.connective {n : ℕ} {ds : List Char} (c : Connective)
    (h : Completes s true n ds) : Completes s false n (c.op.symbol :: ds) := by
  obtain ⟨es, rest, rfl, hes, hrest⟩ := h
  exact Closes.cons (Connective.symbol_mem_iff.2 ⟨c, rfl⟩) hes hrest

/-- A token that the diagnosis lets pass leads from what completes the text after it to what
completes the text before it. -/
lemma Completes.token {k : Checker} {position : ℕ} {t : Token} {ds : List Char}
    (hf : k.fault? position t = none)
    (h : Completes s (k.advance position t).expectsOperand
      (k.advance position t).opened.length ds) :
    Completes s k.expectsOperand k.opened.length (t.spell s :: ds) := by
  cases t with
  | literal b =>
    cases hw : k.expectsOperand with
    | false => simp [Checker.fault?, hw] at hf
    | true => exact ⟨[s.spell b], ds, rfl, spell b, h⟩
  | operator op =>
    rcases op.eq_not_or_connective with rfl | ⟨c, rfl⟩
    · cases hw : k.expectsOperand with
      | false => simp [Checker.fault?, hw] at hf
      | true => exact Completes.not h
    · cases hw : k.expectsOperand with
      | false => exact Completes.connective c h
      | true =>
        rw [Checker.fault?_connective, hw, if_pos rfl] at hf
        split at hf <;> cases hf
  | opening =>
    cases hw : k.expectsOperand with
    | false => simp [Checker.fault?, hw] at hf
    | true => exact Completes.opening h
  | closing =>
    cases hw : k.expectsOperand with
    | true => simp [Checker.fault?, hw] at hf
    | false =>
      cases ho : k.opened with
      | nil => simp [Checker.fault?, hw, ho] at hf
      | cons q qs =>
        have hq : (k.advance position .closing).opened = qs := by simp [Checker.advance, ho]
        rw [hq] at h
        exact ⟨[], ds, rfl, continues_nil, h⟩

/-- **What the diagnosis accepts from some state on completes the text there.** -/
lemma completes_of_check (k : Checker) (position : ℕ) (cs : List Char)
    (h : Checker.check s position k cs = .ok ()) :
    Completes s k.expectsOperand k.opened.length (cs.filter fun c => !isBlank c) := by
  induction cs generalizing k position with
  | nil =>
    rw [Checker.check, Checker.atEnd] at h
    cases hw : k.expectsOperand with
    | true => simp [hw] at h
    | false =>
      cases ho : k.opened with
      | nil => exact continues_nil
      | cons p ps => simp [hw, ho] at h
  | cons c cs ih =>
    by_cases hc : isBlank c = true
    · rw [Checker.check, if_pos hc] at h
      rw [List.filter_cons_of_neg (by simp [hc])]
      exact ih k (position + 1) h
    · rw [Checker.check, if_neg hc] at h
      rw [List.filter_cons_of_pos (by simp [hc])]
      cases ht : Token.ofChar? s c with
      | none => simp [ht] at h
      | some t =>
        cases hf : k.fault? position t with
        | some e => simp [ht, Checker.read, hf] at h
        | none =>
          simp only [ht, Checker.read, hf] at h
          rw [Token.eq_spell_of_ofChar? s ht]
          exact Completes.token hf (ih _ _ h)

/-- What converts is a sentence. -/
lemma of_toRpn {cs : List Char} {ts : List Token} (h : toRpn s cs = .ok ts) :
    Written s .expression (cs.filter fun c => !isBlank c) := by
  obtain ⟨es, rest, hes, he, hrest⟩ := completes_of_check Checker.start 0 cs (check_of_toRpn s h)
  rw [hes]
  exact hrest es (operand he)

end Written

/-! ### The layered grammar -/

/-- The layers of the grammar, from the one that binds loosest to the one that binds tightest. -/
inductive Tier where
  | low
  | mid
  | unary
deriving DecidableEq, Repr

/-- The next tighter layer. -/
def Tier.tighter : Tier → Tier
  | .low => .mid
  | .mid | .unary => .unary

/-- How tightly the operators of a layer bind. -/
def Tier.level : Tier → ℕ
  | .low => 1
  | .mid => 2
  | .unary => 3

lemma Tier.level_le_tighter (k : Tier) : k.level ≤ k.tighter.level := by
  cases k <;> decide

lemma Tier.level_lt_tighter {k : Tier} (hk : k ≠ .unary) : k.level < k.tighter.level := by
  cases k <;> simp_all [tighter, level]

lemma Tier.level_tighter_le {j k : Tier} (h : j.level < k.level) : j.tighter.level ≤ k.level := by
  cases j <;> cases k <;> simp_all [tighter, level]

lemma Tier.level_low_le (k : Tier) : Tier.low.level ≤ k.level := by
  cases k <;> decide

/-- The layer in which a connective joins. -/
def Connective.tier : Connective → Tier
  | .or | .nand => .low
  | .and | .xor => .mid

/-- `Derives k ts t`: the tokens `ts` are a phrase of layer `k`, and `t` is their tree. A low phrase
is a chain of mid phrases with OR or NAND between them, a mid phrase a chain of unary ones with AND
or XOR, and both chains group to the left; a unary phrase is NOT before a unary phrase, a low
phrase in parentheses, or a literal. -/
inductive Derives : Tier → List Token → Tree → Prop where
  | tighter {k : Tier} {ts : List Token} {t : Tree} (hk : k ≠ .unary)
    (h : Derives k.tighter ts t) : Derives k ts t
  | chain {k : Tier} {ts us : List Token} {t u : Tree} (c : Connective) (hc : c.tier = k)
    (h : Derives k ts t) (h' : Derives k.tighter us u) :
    Derives k (ts ++ .operator c.op :: us) (.binary c t u)
  | not {ts : List Token} {t : Tree} (h : Derives .unary ts t) :
    Derives .unary (.operator .not :: ts) (.not t)
  | group {ts : List Token} {t : Tree} (h : Derives .low ts t) :
    Derives .unary (.opening :: ts ++ [.closing]) t
  | literal (b : Bool) : Derives .unary [.literal b] (.literal b)

namespace Derives

lemma mid_of_unary {ts : List Token} {t : Tree} (h : Derives .unary ts t) : Derives .mid ts t :=
  tighter (by decide) h

lemma low_of_mid {ts : List Token} {t : Tree} (h : Derives .mid ts t) : Derives .low ts t :=
  tighter (by decide) h

/-- A phrase of a layer is a phrase of every looser one. -/
lemma loosen {j k : Tier} {ts : List Token} {t : Tree} (hjk : j.level ≤ k.level)
    (h : Derives k ts t) : Derives j ts t := by
  cases k with
  | low =>
    cases j with
    | low => exact h
    | mid | unary => exact absurd hjk (by decide)
  | mid =>
    cases j with
    | low => exact low_of_mid h
    | mid => exact h
    | unary => exact absurd hjk (by decide)
  | unary =>
    cases j with
    | low => exact low_of_mid (mid_of_unary h)
    | mid => exact mid_of_unary h
    | unary => exact h

lemma ne_nil {k : Tier} {ts : List Token} {t : Tree} (h : Derives k ts t) : ts ≠ [] := by
  induction h with
  | tighter _ _ ih => exact ih
  | chain | not | group | literal => simp

/-- An operand after a connective goes into the last phrase of the connective's layer. -/
lemma snoc (c : Connective) {ts us : List Token} {t u : Tree} (h : Derives .low ts t)
    (h' : Derives .unary us u) : ∃ w, Derives .low (ts ++ .operator c.op :: us) w := by
  cases hc : c.tier with
  | unary => cases c <;> cases hc
  | low => exact ⟨_, chain c hc h (mid_of_unary h')⟩
  | mid =>
    cases h with
    | tighter _ hmid => exact ⟨_, low_of_mid (chain c hc hmid h')⟩
    | @chain _ vs ws _ _ d hd hv hw =>
      have hdc := chain d hd hv (chain c hc hw h')
      rw [← List.cons_append, ← List.append_assoc] at hdc
      exact ⟨_, hdc⟩

end Derives

/-- The layer of a phrase of the flat grammar. -/
def Phrase.tier : Phrase → Tier
  | .expression => .low
  | .operand => .unary

/-- **Every sentence of the flat grammar has a tree.** -/
lemma Written.derives {p : Phrase} {cs : List Char} (h : Written s p cs) :
    ∃ ts t, cs = ts.map (Token.spell s) ∧ Derives p.tier ts t := by
  induction h with
  | literal h =>
    rcases h with rfl | rfl
    · exact ⟨_, _, rfl, .literal true⟩
    · exact ⟨_, _, rfl, .literal false⟩
  | group _ ih =>
    obtain ⟨ts, t, rfl, ht⟩ := ih
    exact ⟨_, _, by simp [Token.spell], .group ht⟩
  | not _ ih =>
    obtain ⟨ts, t, rfl, ht⟩ := ih
    exact ⟨_, _, rfl, .not ht⟩
  | operand _ ih =>
    obtain ⟨ts, t, rfl, ht⟩ := ih
    exact ⟨_, _, rfl, .low_of_mid (.mid_of_unary ht)⟩
  | binary hc _ _ ih ih' =>
    obtain ⟨ts, t, rfl, ht⟩ := ih
    obtain ⟨us, u, rfl, hu⟩ := ih'
    obtain ⟨c, rfl⟩ := Connective.symbol_mem_iff.1 hc
    obtain ⟨w, hw⟩ := ht.snoc c hu
    exact ⟨_, w, by simp [Token.spell], hw⟩

end BoolCalc
