import Mathlib.Data.Int.Notation
import Mathlib.Data.List.Basic
import Mathlib.Data.List.Induction
import Mathlib.Data.Nat.Find
import BoolCalc.Proofs.Tree

/-!
# Running a sequence by its depth

Whatever the tokens of a sequence, what running it comes to is told by counting: the depth at a
place is the number of literals before it less the number of binary operators. A parenthesis, a NOT
at depth zero and a binary operator at depth one or less are at fault, and the first of them
decides. Without a fault the values on the stack are those of as many trees as the depth says,
whose listings one after the other are the tokens that were read. The symbols under which a
sequence is run make no difference.
-/

namespace BoolCalc

/-- A literal. -/
def Token.isLiteral : Token → Bool
  | .literal _ => true
  | .operator _ | .opening | .closing => false

/-- An operator of two operands. -/
def Token.isBinary : Token → Bool
  | .operator op => !op.isUnary
  | .literal _ | .opening | .closing => false

namespace Rpn

/-- The number of literals less the number of binary operators. -/
def depth (ts : List Token) : ℤ := ts.countP Token.isLiteral - ts.countP Token.isBinary

/-- What is wrong with a token at a depth. -/
def fault? (s : Symbols) (depth : ℤ) : Token → Option Unrunnable
  | .literal _ => none
  | .operator .not => if depth = 0 then some .notWithoutOperand else none
  | .operator op => if depth ≤ 1 then some (.binaryWithoutOperands op) else none
  | .opening => some (.parenthesis (Token.opening.spell s))
  | .closing => some (.parenthesis (Token.closing.spell s))

/-- What is wrong with the token at index `k`. -/
def faultAt? (s : Symbols) (ts : List Token) (k : ℕ) : Option Unrunnable :=
  ts[k]?.bind (fault? s (depth (ts.take k)))

variable (s : Symbols)

@[simp] lemma depth_nil : depth [] = 0 := rfl

lemma depth_append (ts us : List Token) : depth (ts ++ us) = depth ts + depth us := by
  simp only [depth, List.countP_append]
  omega

lemma depth_connective (c : Connective) : depth [.operator c.op] = -1 := by
  cases c <;> rfl

lemma fault?_connective (d : ℤ) (c : Connective) :
    fault? s d (.operator c.op) = if d ≤ 1 then some (.binaryWithoutOperands c.op) else none := by
  cases c <;> rfl

lemma faultAt?_append {ts : List Token} {k : ℕ} (h : k < ts.length) (us : List Token) :
    faultAt? s (ts ++ us) k = faultAt? s ts k := by
  rw [faultAt?, faultAt?, List.getElem?_append_left h,
    List.take_append_of_le_length (Nat.le_of_lt h)]

lemma faultAt?_length (ts us : List Token) (t : Token) :
    faultAt? s (ts ++ t :: us) ts.length = fault? s (depth ts) t := by
  rw [faultAt?, List.getElem?_append_right (Nat.le_refl _), Nat.sub_self,
    List.take_append_of_le_length (Nat.le_refl _), List.take_length]
  rfl

lemma faultAt?_of_length_le {ts : List Token} {k : ℕ} (h : ts.length ≤ k) :
    faultAt? s ts k = none := by
  rw [faultAt?, List.getElem?_eq_none h]
  rfl

/-- The tokens of a forest that lies on a stack, its last tree first. -/
def listing (f : List Tree) : List Token := f.reverse.flatMap Tree.postorder

lemma listing_cons (t : Tree) (f : List Tree) : listing (t :: f) = listing f ++ t.postorder := by
  simp [listing]

/-- A token at fault is refused. -/
lemma step_of_fault {stack : List Bool} {t : Token} {e : Unrunnable}
    (h : fault? s stack.length t = some e) : step s stack t = .error e := by
  rcases t with b | op | _ | _
  · cases h
  · rcases op.eq_not_or_connective with rfl | ⟨c, rfl⟩
    · cases stack with
      | nil =>
        cases h
        rfl
      | cons a rest =>
        rw [fault?, if_neg (by simp; omega)] at h
        cases h
    · rw [fault?_connective] at h
      split at h
      · cases h
        simp only [step, Connective.isUnary_op]
        rcases stack with _ | ⟨b, _ | ⟨a, rest⟩⟩
        · rfl
        · rfl
        · simp at *
          omega
      · cases h
  · cases h
    rfl
  · cases h
    rfl

/-- **Step**: a token without a fault makes the forest on the stack the forest of all tokens
read. -/
lemma step_forest {f : List Tree} {t : Token} (h : fault? s f.length t = none) :
    ∃ g : List Tree, step s (f.map Tree.value) t = .ok (g.map Tree.value) ∧
      (g.length : ℤ) = f.length + depth [t] ∧ listing g = listing f ++ [t] := by
  rcases t with b | op | _ | _
  · exact ⟨.literal b :: f, rfl, by simp [depth, Token.isLiteral, Token.isBinary], listing_cons _ _⟩
  · rcases op.eq_not_or_connective with rfl | ⟨c, rfl⟩
    · cases f with
      | nil => cases h
      | cons u f =>
        refine ⟨.not u :: f, rfl, ?_, ?_⟩
        · simp [depth, Token.isLiteral, Token.isBinary, Operator.isUnary, Operator.entry]
        · simp [listing_cons, Tree.postorder]
    · rw [fault?_connective] at h
      rcases f with _ | ⟨r, _ | ⟨l, f⟩⟩
      · simp at h
      · simp at h
      · refine ⟨.binary c l r :: f, ?_, ?_, ?_⟩
        · simp [step, Tree.value]
        · simp only [depth_connective, List.length_cons]
          omega
        · simp [listing_cons, Tree.postorder]
  · cases h
  · cases h

/-- **Run**: a sequence without a fault leaves the values of a forest that it lists, of as many
trees as its depth says. -/
lemma run_forest {ts : List Token} (h : ∀ k, faultAt? s ts k = none) :
    ∃ f : List Tree, run s [] ts = .ok (f.map Tree.value) ∧ (f.length : ℤ) = depth ts ∧
      listing f = ts := by
  induction ts using List.reverseRecOn with
  | nil => exact ⟨[], rfl, rfl, rfl⟩
  | append_singleton ts t ih =>
    have hts : ∀ k, faultAt? s ts k = none := by
      intro k
      rcases Nat.lt_or_ge k ts.length with hk | hk
      · rw [← faultAt?_append s hk [t], h]
      · exact faultAt?_of_length_le s hk
    obtain ⟨f, hrun, hlen, hlist⟩ := ih hts
    have ht : fault? s f.length t = none := by
      rw [hlen, ← faultAt?_length s ts [] t]
      exact h _
    obtain ⟨g, hstep, hlen', hlist'⟩ := step_forest s ht
    refine ⟨g, ?_, ?_, ?_⟩
    · rw [run_append, hrun, Except.bind, run_cons, hstep]
      rfl
    · rw [hlen', hlen, depth_append]
    · rw [hlist', hlist]

/-- The first fault decides, whatever follows it. -/
lemma run_of_fault {ts : List Token} {k : ℕ} {e : Unrunnable} (h : faultAt? s ts k = some e)
    (hbefore : ∀ j < k, faultAt? s ts j = none) : run s [] ts = .error e := by
  obtain ⟨t, ht, hfault⟩ := Option.bind_eq_some_iff.1 h
  obtain ⟨hk, rfl⟩ := List.getElem?_eq_some_iff.1 ht
  have hsplit : ts.take k ++ ts[k] :: ts.drop (k + 1) = ts := by
    rw [← List.drop_eq_getElem_cons hk, List.take_append_drop]
  have hclean : ∀ j, faultAt? s (ts.take k) j = none := by
    intro j
    rcases Nat.lt_or_ge j (ts.take k).length with hj | hj
    · rw [← faultAt?_append s hj (ts[k] :: ts.drop (k + 1)), hsplit]
      exact hbefore j (by rw [List.length_take] at hj; omega)
    · exact faultAt?_of_length_le s hj
  obtain ⟨f, hrun, hlen, -⟩ := run_forest s hclean
  have hstep : step s (f.map Tree.value) ts[k] = .error e :=
    step_of_fault s (by rwa [List.length_map, hlen])
  rw [← hsplit, run_append, hrun, Except.bind, run_cons, hstep]
  rfl

/-- Where there is a fault there is a first one. -/
lemma exists_first_fault {ts : List Token} (h : ¬ ∀ k, faultAt? s ts k = none) :
    ∃ k e, faultAt? s ts k = some e ∧ ∀ j < k, faultAt? s ts j = none := by
  have hex : ∃ k, faultAt? s ts k ≠ none := not_forall.1 h
  obtain ⟨e, he⟩ := Option.ne_none_iff_exists'.1 (Nat.find_spec hex)
  exact ⟨Nat.find hex, e, he, fun j hj => not_not.1 (Nat.find_min hex hj)⟩

/-- That there is no value at all is not the fault of a token. -/
lemma faultAt?_ne_noValue (ts : List Token) (k : ℕ) : faultAt? s ts k ≠ some .noValue := by
  intro h
  obtain ⟨t, -, ht⟩ := Option.bind_eq_some_iff.1 h
  rcases t with b | op | _ | _
  · cases ht
  · rcases op.eq_not_or_connective with rfl | ⟨c, rfl⟩
    · rw [fault?] at ht
      split at ht <;> cases ht
    · rw [fault?_connective] at ht
      split at ht <;> cases ht
  · cases ht
  · cases ht

/-- The symbols play no part, since none of them spells a parenthesis. -/
lemma faultAt?_congr (s' : Symbols) (ts : List Token) (k : ℕ) :
    faultAt? s ts k = faultAt? s' ts k := by
  have hfault : ∀ d, fault? s d = fault? s' d := by
    intro d
    funext t
    rcases t with b | op | _ | _
    · rfl
    · cases op <;> rfl
    · rfl
    · rfl
  rw [faultAt?, faultAt?, hfault]

lemma step_congr (s' : Symbols) (stack : List Bool) (t : Token) :
    step s stack t = step s' stack t := by
  cases t <;> rfl

lemma eval_congr (s' : Symbols) (ts : List Token) : eval s ts = eval s' ts := by
  have hstep : step s = step s' := by
    funext stack t
    exact step_congr s s' stack t
  rw [eval_eq, eval_eq, run, run, hstep]

/-- The outcome of a sequence without a fault is told by its depth. -/
lemma eval_of_no_fault {ts : List Token} (h : ∀ k, faultAt? s ts k = none) :
    ts = [] ∧ eval s ts = .error .noValue ∨
    1 < depth ts ∧ eval s ts = .error (.leftOver (depth ts - 1).toNat) ∨
    depth ts = 1 ∧
      ∃ t : Tree, (∀ u : Tree, u.postorder = ts ↔ u = t) ∧ eval s ts = .ok t.value := by
  obtain ⟨f, hrun, hlen, hlist⟩ := run_forest s h
  rcases f with _ | ⟨t, _ | ⟨u, f⟩⟩
  · subst hlist
    exact .inl ⟨rfl, rfl⟩
  · have ht : t.postorder = ts := by simpa [listing] using hlist
    refine .inr (.inr ⟨hlen.symm, t, fun u => ⟨fun hu => ?_, fun hu => hu ▸ ht⟩, ?_⟩)
    · exact Tree.postorder_injective (hu.trans ht.symm)
    · rw [eval_eq, hrun]
      rfl
  · have hlen' : depth ts = f.length + 2 := by
      rw [← hlen, List.length_cons, List.length_cons]
      omega
    refine .inr (.inl ⟨by omega, ?_⟩)
    have hextra : (depth ts - 1).toNat = (u :: f).length := by
      rw [hlen', List.length_cons]
      omega
    rw [eval_eq, hrun, hextra, ← List.length_map Tree.value]
    rfl

end Rpn

/-- **What a sequence comes to is told by its depth.** The first token at fault decides. Without a
fault the sequence is empty, or its depth is one and it is the listing of one tree, whose value it
has, or its depth says how many values are too many. The symbols play no part, neither in the faults
nor in what the sequence comes to. -/
theorem eval_told_by_depth (s : Symbols) (ts : List Token) :
    (∀ k e, Rpn.faultAt? s ts k = some e → (∀ j < k, Rpn.faultAt? s ts j = none) →
      Rpn.eval s ts = .error e) ∧
    ((∀ k, Rpn.faultAt? s ts k = none) →
      ts = [] ∧ Rpn.eval s ts = .error .noValue ∨
      1 < Rpn.depth ts ∧ Rpn.eval s ts = .error (.leftOver (Rpn.depth ts - 1).toNat) ∨
      Rpn.depth ts = 1 ∧
        ∃ t : Tree, (∀ u : Tree, u.postorder = ts ↔ u = t) ∧ Rpn.eval s ts = .ok t.value) ∧
    (Rpn.eval s ts = .error .noValue ↔ ts = []) ∧
    (∀ s' k, Rpn.faultAt? s' ts k = Rpn.faultAt? s ts k) ∧
    ∀ s', Rpn.eval s' ts = Rpn.eval s ts := by
  refine ⟨fun k e h hbefore => ?_, fun h => Rpn.eval_of_no_fault s h, ⟨fun h => ?_, ?_⟩,
    fun s' k => Rpn.faultAt?_congr s' s ts k, fun s' => Rpn.eval_congr s' s ts⟩
  · rw [Rpn.eval_eq, Rpn.run_of_fault s h hbefore]
    rfl
  · by_cases hclean : ∀ k, Rpn.faultAt? s ts k = none
    · rcases Rpn.eval_of_no_fault s hclean with ⟨hts, -⟩ | ⟨-, hev⟩ | ⟨-, t, -, hev⟩
      · exact hts
      · rw [h] at hev
        cases hev
      · rw [h] at hev
        cases hev
    · obtain ⟨k, e, hk, hbefore⟩ := Rpn.exists_first_fault s hclean
      rw [Rpn.eval_eq, Rpn.run_of_fault s hk hbefore] at h
      cases h
      exact absurd hk (Rpn.faultAt?_ne_noValue s ts k)
  · rintro rfl
    rfl

/-- An operator short of an operand decides before the parenthesis behind it; and without a fault
there is one tree for the sequence. -/
theorem eval_told_by_depth_mixed :
    Rpn.eval .standard [.literal true, .operator .not, .operator .and, .opening] =
        .error (.binaryWithoutOperands .and) ∧
      ∃ t : Tree,
        (∀ u : Tree, u.postorder = [.literal true, .literal false, .operator .nand] ↔ u = t) ∧
        Rpn.eval .standard [.literal true, .literal false, .operator .nand] = .ok t.value := by
  constructor
  · exact (eval_told_by_depth .standard _).1 2 _ rfl (by decide)
  · have hclean : ∀ k, Rpn.faultAt? .standard
        [.literal true, .literal false, .operator .nand] k = none := by
      intro k
      rcases Nat.lt_or_ge k 3 with hk | hk
      · revert k
        decide
      · exact Rpn.faultAt?_of_length_le _ hk
    rcases (eval_told_by_depth .standard _).2.1 hclean with ⟨h, -⟩ | ⟨h, -⟩ | ⟨-, h⟩
    · cases h
    · exact absurd h (by decide)
    · exact h

end BoolCalc
