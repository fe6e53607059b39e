import Mathlib.Data.List.Basic
import BoolCalc.Proofs.Precedence

/-!
# Which parentheses are needed

An infix tree keeps the parentheses it is written with. Written out token by token it always
converts; the result lists the tree itself exactly if no operand breaks the table of precedences,
so a pair of parentheses that the table asks for cannot be left out unnoticed. The one direction
reads the table as a derivation; the other rests on the depth of nesting at each token, which
together with the tree tells where every parenthesis stands.
-/

namespace BoolCalc

open Text (isBlank)

variable {s : Symbols}

/-- An expression as it is written, with its parentheses. -/
inductive Infix where
  | literal (b : Bool)
  | not (t : Infix)
  | binary (c : Connective) (l r : Infix)
  | paren (t : Infix)
deriving DecidableEq, Repr

namespace Infix

/-- The tokens of an expression from left to right. -/
def tokens : Infix → List Token
  | .literal b => [.literal b]
  | .not t => .operator .not :: t.tokens
  | .binary c l r => l.tokens ++ .operator c.op :: r.tokens
  | .paren t => .opening :: t.tokens ++ [.closing]

/-- The tree of an expression, in which parentheses leave no trace. -/
def tree : Infix → Tree
  | .literal b => .literal b
  | .not t => .not t.tree
  | .binary c l r => .binary c l.tree r.tree
  | .paren t => t.tree

/-- The connective of a binary expression that stands without parentheses. -/
def connective? : Infix → Option Connective
  | .binary c _ _ => some c
  | .literal _ | .not _ | .paren _ => none

/-- No operand breaks the table: without parentheses, a left operand binds at least as tightly as
its parent, a right operand more tightly, and NOT has no binary operand. -/
def Respects : Infix → Prop
  | .literal _ => True
  | .not t => t.connective? = none ∧ t.Respects
  | .binary c l r =>
    (∀ d ∈ l.connective?, c.op.precedence ≤ d.op.precedence) ∧
      (∀ d ∈ r.connective?, c.op.precedence < d.op.precedence) ∧ l.Respects ∧ r.Respects
  | .paren t => t.Respects

end Infix

/-! ### Every expression converts -/

/-- NOT before an expression negates its first operand. -/
lemma Written.not_expression {cs : List Char} (h : Written s .expression cs) :
    Written s .expression ('!' :: cs) := by
  generalize hp : Phrase.expression = p at h
  induction h with
  | literal | group | not => cases hp
  | operand h => exact operand h.not
  | binary hc _ h' ih => exact binary hc (ih hp) h'

lemma Written.connective {cs ds : List Char} (c : Connective) (h : Written s .expression cs)
    (h' : Written s .expression ds) : Written s .expression (cs ++ c.op.symbol :: ds) := by
  generalize hp : Phrase.expression = p at h'
  induction h' with
  | literal | group | not => cases hp
  | operand h' => exact binary (Connective.symbol_mem_iff.2 ⟨c, rfl⟩) h h'
  | binary hc _ h' ih =>
    have := binary hc (ih hp) h'
    simpa using this

namespace Infix

lemma written_tokens (t : Infix) : Written s .expression (t.tokens.map (Token.spell s)) := by
  induction t with
  | literal b => exact .operand (.spell b)
  | not t ih => exact ih.not_expression
  | binary c l r ihl ihr =>
    rw [tokens, List.map_append]
    exact ihl.connective c ihr
  | paren t ih =>
    rw [tokens, List.map_append, List.map_cons]
    exact .operand (.group ih)

/-! ### The table read as a derivation -/

/-- The layer in which an expression stands without further parentheses. -/
def tier (t : Infix) : Tier :=
  match t.connective? with
  | some c => c.tier
  | none => .unary

lemma level_le_tier {k : Tier} {t : Infix} (h : ∀ d ∈ t.connective?, k.level ≤ d.tier.level) :
    k.level ≤ t.tier.level := by
  rw [tier]
  cases ht : t.connective? with
  | none => cases k <;> decide
  | some c => exact h c ht

lemma tier_of_connective? {t : Infix} {c : Connective} (h : c ∈ t.connective?) :
    t.tier = c.tier := by
  rw [tier, Option.mem_def.1 h]

lemma derives_of_respects {t : Infix} (h : t.Respects) : Derives t.tier t.tokens t.tree := by
  induction t with
  | literal b => exact .literal b
  | not t ih =>
    have ht : t.tier = .unary := by rw [tier, h.1]
    exact .not (ht ▸ ih h.2)
  | binary c l r ihl ihr =>
    obtain ⟨hl, hr, hl', hr'⟩ := h
    refine .chain c rfl (.loosen ?_ (ihl hl')) (.loosen ?_ (ihr hr'))
    · refine level_le_tier fun d hd => ?_
      have := hl d hd
      rwa [c.precedence_op, d.precedence_op] at this
    · refine level_le_tier fun d hd => Tier.level_tighter_le ?_
      have := hr d hd
      rwa [c.precedence_op, d.precedence_op] at this
  | paren t ih => exact .group (.loosen (Tier.level_low_le _) (ih h))

/-- A derivation shows how its tokens can be read as an expression that respects the table. -/
lemma exists_of_derives {k : Tier} {ts : List Token} {t : Tree} (h : Derives k ts t) :
    ∃ u : Infix, u.tokens = ts ∧ u.tree = t ∧ u.Respects ∧ k.level ≤ u.tier.level := by
  induction h with
  | @tighter k ts t hk h ih =>
    obtain ⟨u, hts, ht, hu, hk'⟩ := ih
    exact ⟨u, hts, ht, hu, Nat.le_trans k.level_le_tighter hk'⟩
  | chain c hc h h' ih ih' =>
    obtain ⟨l, rfl, rfl, hl, hlk⟩ := ih
    obtain ⟨r, rfl, rfl, hr, hrk⟩ := ih'
    subst hc
    have hlt := Tier.level_lt_tighter c.tier_ne_unary
    refine ⟨.binary c l r, rfl, rfl, ⟨fun d hd => ?_, fun d hd => ?_, hl, hr⟩, Nat.le_refl _⟩
    · rw [tier_of_connective? hd] at hlk
      simpa only [Connective.precedence_op] using hlk
    · rw [tier_of_connective? hd] at hrk
      simpa only [Connective.precedence_op] using Nat.lt_of_lt_of_le hlt hrk
  | not h ih =>
    obtain ⟨u, rfl, rfl, hu, hk⟩ := ih
    refine ⟨.not u, rfl, rfl, ⟨Option.eq_none_iff_forall_not_mem.2 fun d hd => ?_, hu⟩,
      Nat.le_refl _⟩
    rw [tier_of_connective? hd] at hk
    cases d <;> exact absurd hk (by decide)
  | group h ih =>
    obtain ⟨u, rfl, rfl, hu, -⟩ := ih
    exact ⟨.paren u, rfl, rfl, hu, Nat.le_refl _⟩
  | literal b => exact ⟨.literal b, rfl, rfl, trivial, Nat.le_refl _⟩

/-! ### Where the parentheses stand -/

/-- The depth of nesting at each operand and operator, from `d` on. -/
def nesting (d : ℕ) : Infix → List ℕ
  | .literal _ => [d]
  | .not t => d :: t.nesting d
  | .binary _ l r => l.nesting d ++ d :: r.nesting d
  | .paren t => t.nesting (d + 1)

end Infix

/-- The depth of nesting at each literal and operator of a list of tokens, from `d` on. -/
def Token.nesting (d : ℕ) : List Token → List ℕ
  | [] => []
  | .opening :: ts => nesting (d + 1) ts
  | .closing :: ts => nesting (d - 1) ts
  | .literal _ :: ts | .operator _ :: ts => d :: nesting d ts

namespace Infix

lemma nesting_tokens (t : Infix) (d : ℕ) (ts : List Token) :
    Token.nesting d (t.tokens ++ ts) = t.nesting d ++ Token.nesting d ts := by
  induction t generalizing d ts with
  | literal b => rfl
  | not t ih => simp [tokens, nesting, Token.nesting, ih]
  | binary c l r ihl ihr => simp [tokens, nesting, Token.nesting, ihl, ihr]
  | paren t ih => simp [tokens, nesting, Token.nesting, ih]

lemma le_of_mem_nesting {t : Infix} {d n : ℕ} (h : n ∈ t.nesting d) : d ≤ n := by
  induction t generalizing d with
  | literal b => simp_all [nesting]
  | not t ih =>
    rcases List.mem_cons.1 h with rfl | h
    · exact Nat.le_refl _
    · exact ih h
  | binary c l r ihl ihr =>
    rcases List.mem_append.1 h with h | h
    · exact ihl h
    · rcases List.mem_cons.1 h with rfl | h
      · exact Nat.le_refl _
      · exact ihr h
  | paren t ih => exact Nat.le_trans (Nat.le_succ d) (ih h)

/-- Around a token of the whole expression there is no parenthesis, unless the expression is a
group. -/
lemma mem_nesting {t : Infix} (ht : ∀ u, t ≠ .paren u) (d : ℕ) : d ∈ t.nesting d := by
  cases t with
  | literal b => exact List.mem_singleton.2 rfl
  | not t => exact List.mem_cons_self
  | binary c l r => exact List.mem_append_right _ List.mem_cons_self
  | paren u => exact absurd rfl (ht u)

lemma nesting_paren_ne {t u : Infix} (hu : ∀ v, u ≠ .paren v) (d : ℕ) :
    (paren t).nesting d ≠ u.nesting d := by
  intro h
  have hd : d + 1 ≤ d := le_of_mem_nesting (h ▸ mem_nesting hu d : d ∈ (paren t).nesting d)
  omega

lemma length_nesting (t : Infix) (d : ℕ) : (t.nesting d).length = t.tree.postorder.length := by
  induction t generalizing d with
  | literal b => rfl
  | not t ih => simp [nesting, tree, Tree.postorder, ih]
  | binary c l r ihl ihr =>
    simp [nesting, tree, Tree.postorder, ihl, ihr]
  | paren t ih => exact ih (d + 1)

/-- **Tree and nesting tell an expression.** -/
lemma eq_of_nesting {t u : Infix} {d : ℕ} (h : t.tree = u.tree) (hn : t.nesting d = u.nesting d) :
    t = u := by
  induction t generalizing u d with
  | literal b =>
    cases u with
    | literal b' => rw [Tree.literal.inj h]
    | not | binary => cases h
    | paren u => exact absurd hn.symm (nesting_paren_ne (by simp) d)
  | not t ih =>
    cases u with
    | not u => rw [ih (Tree.not.inj h) (List.cons.inj hn).2]
    | literal | binary => cases h
    | paren u => exact absurd hn.symm (nesting_paren_ne (by simp) d)
  | binary c l r ihl ihr =>
    cases u with
    | binary c' l' r' =>
      obtain ⟨rfl, hl, hr⟩ := Tree.binary.inj h
      obtain ⟨hnl, hnr⟩ := List.append_inj hn (by rw [length_nesting, length_nesting, hl])
      rw [ihl hl hnl, ihr hr (List.cons.inj hnr).2]
    | literal | not => cases h
    | paren u => exact absurd hn.symm (nesting_paren_ne (by simp) d)
  | paren t ih =>
    cases u with
    | paren u =>
      have ht := ih (u := u) (d := d + 1) h hn
      rw [ht]
    | literal | not | binary => exact absurd hn (nesting_paren_ne (by simp) d)

lemma eq_of_tokens {t u : Infix} (h : t.tree = u.tree) (hts : t.tokens = u.tokens) : t = u := by
  have ht := t.nesting_tokens 0 []
  have hu := u.nesting_tokens 0 []
  rw [List.append_nil, Token.nesting, List.append_nil] at ht hu
  exact eq_of_nesting h (by rw [← ht, ← hu, hts])

end Infix

/-- **The parentheses that the table asks for cannot be left out**: every expression converts as
it is written, and it converts to the listing of its own tree exactly if it respects the table. -/
theorem toRpn_tokens_eq_postorder_iff (s : Symbols) (t : Infix) :
    ∃ ts, toRpn s (t.tokens.map (Token.spell s)) = .ok ts ∧
      (ts = t.tree.postorder ↔ t.Respects) := by
  have hfilter : ((t.tokens.map (Token.spell s)).filter fun c => !isBlank c) =
      t.tokens.map (Token.spell s) := by
    refine List.filter_eq_self.2 fun c hc => ?_
    obtain ⟨u, -, rfl⟩ := List.mem_map.1 hc
    simp
  have hscan := scan_spelled hfilter
  obtain ⟨us, w, hus, hw, hrpn⟩ := toRpn_of_written (hfilter.symm ▸ t.written_tokens)
  obtain rfl : t.tokens = us :=
    List.map_injective_iff.2 (fun _ _ => Option.some.inj) (hscan.symm.trans hus)
  refine ⟨w.postorder, hrpn, fun h => ?_, fun h => ?_⟩
  · obtain ⟨u, hts, hu, hresp, -⟩ := Infix.exists_of_derives hw
    rwa [← Infix.eq_of_tokens (hu.trans (Tree.postorder_injective h)) hts]
  · have ht := (Infix.derives_of_respects h).loosen (Tier.level_low_le _)
    have hrpn' := toRpn_of_derives ht hscan
    exact Except.ok.inj (hrpn.symm.trans hrpn')

end BoolCalc
