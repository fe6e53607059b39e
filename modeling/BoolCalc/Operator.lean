/-!
# Operators

The five gates, as one table: spelling, name, number of operands, binding strength and grouping
of each. NOT binds tightest, then AND and XOR together, then OR and NAND together; operators of
one strength group to the left, and NOT, which stands before its operand, to the right.
-/

namespace BoolCalc

/-- How a chain of operators of one strength groups. -/
inductive Grouping where
  | left
  | right
deriving DecidableEq, Repr

/-- The gates that an expression can name. -/
inductive Operator where
  | not
  | and
  | or
  | nand
  | xor
deriving DecidableEq, Repr

namespace Operator

/-- What the table says about an operator. -/
structure Entry where
  symbol : Char
  name : String
  arity : Nat
  precedence : Nat
  grouping : Grouping
deriving DecidableEq, Repr

/-- The operators in the order of the table. -/
def all : List Operator := [.not, .and, .or, .nand, .xor]

/-- The row of an operator; a higher precedence binds tighter. -/
def entry : Operator → Entry
  | .not => ⟨'!', "NOT", 1, 3, .right⟩
  | .and => ⟨'&', "AND", 2, 2, .left⟩
  | .or => ⟨'|', "OR", 2, 1, .left⟩
  | .nand => ⟨'@', "NAND", 2, 1, .left⟩
  | .xor => ⟨'$', "XOR", 2, 2, .left⟩

/-- The character that spells the operator. -/
def symbol (op : Operator) : Char := op.entry.symbol

/-- The name of the gate. -/
def name (op : Operator) : String := op.entry.name

/-- How tightly the operator binds. -/
def precedence (op : Operator) : Nat := op.entry.precedence

/-- Whether the operator takes a single operand. -/
def isUnary (op : Operator) : Bool := op.entry.arity == 1

/-- The operator that a character spells. -/
def ofChar? (c : Char) : Option Operator := all.find? fun op => op.symbol == c

/-- Name and spelling, as messages show them. -/
def describe (op : Operator) : String := s!"{op.name} ('{op.symbol}')"

/-- Whether `op`, arriving after the operands of `top`, leaves them to `top`. -/
def yieldsTo (op top : Operator) : Bool :=
  match op.entry.grouping with
  | .left => op.precedence ≤ top.precedence
  | .right => op.precedence < top.precedence

/-- The gate on one input, if it has one. -/
def unary? (op : Operator) (a : Bool) : Option Bool :=
  match op with
  | .not => some (!a)
  | .and | .or | .nand | .xor => none

/-- The gate on two inputs, if it has two. -/
def binary? (op : Operator) (a b : Bool) : Option Bool :=
  match op with
  | .not => none
  | .and => some (a && b)
  | .or => some (a || b)
  | .nand => some (!(a && b))
  | .xor => some (a != b)

theorem mem_all (op : Operator) : op ∈ all := by cases op <;> decide

@[simp] theorem ofChar?_symbol (op : Operator) : ofChar? op.symbol = some op := by
  cases op <;> rfl

theorem eq_symbol_of_ofChar? {c : Char} {op : Operator} (h : ofChar? c = some op) :
    c = op.symbol := by
  have := List.find?_some (show all.find? (fun op => op.symbol == c) = some op from h)
  exact (beq_iff_eq.1 this).symm

end Operator

end BoolCalc
