import Mathlib.Data.List.Basic
import BoolCalc.Rpn

/-!
# Expression trees

What an expression means once its grouping is known: a tree of gates over truth values. The
post-order listing of a tree is a reverse Polish sequence that runs to the value of the tree, and
no two trees have the same listing.
-/

namespace BoolCalc

/-- The gates of two inputs. -/
inductive Connective where
  | and
  | or
  | nand
  | xor
deriving DecidableEq, Repr

namespace Connective

/-- The operator that names the gate. -/
def op : Connective → Operator
  | .and => .and
  | .or => .or
  | .nand => .nand
  | .xor => .xor

/-- The truth table of the gate. -/
def apply : Connective → Bool → Bool → Bool
  | .and, a, b => a && b
  | .or, a, b => a || b
  | .nand, a, b => !(a && b)
  | .xor, a, b => a != b

@[simp] lemma isUnary_op (c : Connective) : c.op.isUnary = false := by cases c <;> rfl

@[simp] lemma binary?_op (c : Connective) (a b : Bool) :
    c.op.binary? a b = some (c.apply a b) := by cases c <;> rfl

lemma op_ne_not (c : Connective) : c.op ≠ .not := by cases c <;> simp [op]

lemma op_injective {c d : Connective} (h : c.op = d.op) : c = d := by
  cases c <;> cases d <;> simp_all [op]

end Connective

lemma Operator.eq_not_or_connective (op : Operator) : op = .not ∨ ∃ c : Connective, op = c.op := by
  cases op with
  | not => exact .inl rfl
  | and => exact .inr ⟨.and, rfl⟩
  | or => exact .inr ⟨.or, rfl⟩
  | nand => exact .inr ⟨.nand, rfl⟩
  | xor => exact .inr ⟨.xor, rfl⟩

/-- A boolean expression without its spelling. -/
inductive Tree where
  | literal (b : Bool)
  | not (t : Tree)
  | binary (c : Connective) (l r : Tree)
deriving DecidableEq, Repr

namespace Tree

/-- The truth value of a tree. -/
def value : Tree → Bool
  | .literal b => b
  | .not t => !t.value
  | .binary c l r => c.apply l.value r.value

/-- The tokens of a tree, each operator after its operands. -/
def postorder : Tree → List Token
  | .literal b => [.literal b]
  | .not t => t.postorder ++ [.operator .not]
  | .binary c l r => l.postorder ++ r.postorder ++ [.operator c.op]

/-- Running the listing of a tree puts its value on the stack. -/
lemma run_postorder (s : Symbols) (t : Tree) (stack : List Bool) :
    Rpn.run s stack t.postorder = .ok (t.value :: stack) := by
  induction t generalizing stack with
  | literal b => rfl
  | not t ih =>
    rw [postorder, Rpn.run_append, ih]
    rfl
  | binary c l r ihl ihr =>
    rw [postorder, Rpn.run_append, Rpn.run_append, ihl]
    simp only [Except.bind, ihr, Rpn.run_cons, Rpn.run_nil]
    simp [Rpn.step, value]

lemma eval_postorder (s : Symbols) (t : Tree) : Rpn.eval s t.postorder = .ok t.value := by
  rw [Rpn.eval_eq, run_postorder]
  rfl

/-- Read from its end, a listing is told from what stands before it. -/
lemma postorder_append_inj {t u : Tree} {xs ys : List Token}
    (h : xs ++ t.postorder = ys ++ u.postorder) : xs = ys ∧ t = u := by
  -- the last tokens agree, so the two roots are of one kind
  induction t generalizing u xs ys with
  | literal b =>
    cases u <;> simp only [postorder, ← List.append_assoc, List.append_singleton_inj] at h
    · simpa using h
    · simp at h
    · simp at h
  | not t ih =>
    cases u <;> simp only [postorder, ← List.append_assoc, List.append_singleton_inj] at h
    · simp at h
    · obtain ⟨hxs, rfl⟩ := ih h.1
      exact ⟨hxs, rfl⟩
    · exact absurd (Token.operator.inj h.2).symm (Connective.op_ne_not _)
  | binary c l r ihl ihr =>
    cases u <;> simp only [postorder, ← List.append_assoc, List.append_singleton_inj] at h
    · simp at h
    · exact absurd (Token.operator.inj h.2) c.op_ne_not
    · obtain ⟨hlr, hop⟩ := h
      obtain ⟨hl, rfl⟩ := ihr hlr
      obtain ⟨hxs, rfl⟩ := ihl hl
      exact ⟨hxs, by rw [Connective.op_injective (Token.operator.inj hop)]⟩

lemma postorder_injective {t u : Tree} (h : t.postorder = u.postorder) : t = u :=
  (postorder_append_inj (congrArg ([] ++ ·) h)).2

end Tree

end BoolCalc
