import BoolCalc.Operator

/-!
# What can be wrong

The ways in which a text fails to be an expression, the ways in which a reverse Polish sequence
fails to have a value, and their wording. A fault that has a place names it, counted in
characters from the start of the text.
-/

namespace BoolCalc

/-- Why a text is no expression. -/
inductive Malformed where
  /-- A character that is no token. -/
  | unrecognized (char : Char) (position : Nat)
  /-- An operand or an opening parenthesis where an operator was due. -/
  | operandAfterOperand (position : Nat)
  /-- A binary operator at the start of an expression or of a group. -/
  | operatorWithoutOperand (op : Operator) (position : Nat)
  /-- A binary operator after another operator, or NOT after an operand. -/
  | consecutiveOperators (op : Operator) (position : Nat)
  /-- A closing parenthesis where an operand was due. -/
  | closingWithoutOperand (position : Nat)
  /-- The text ends where an operand was due. -/
  | unfinished
  /-- A parenthesis without its partner. -/
  | unmatched (position : Nat)
  /-- Nothing but blanks. -/
  | empty
deriving DecidableEq, Repr

/-- Why a reverse Polish sequence has no value. -/
inductive Unrunnable where
  /-- NOT with nothing before it. -/
  | notWithoutOperand
  /-- A binary operator with fewer than two values before it. -/
  | binaryWithoutOperands (op : Operator)
  /-- A parenthesis in the sequence. -/
  | parenthesis (symbol : Char)
  /-- An empty sequence. -/
  | noValue
  /-- More than one value at the end; `extra` is how many more. -/
  | leftOver (extra : Nat)
deriving DecidableEq, Repr

/-- The three kinds of rejection. -/
inductive RejectionKind where
  | lexical
  | grammatical
  | evaluation
deriving DecidableEq, Repr

/-- The kind as the log names it. -/
def RejectionKind.name : RejectionKind → String
  | .lexical => "Lexical"
  | .grammatical => "Syntax"
  | .evaluation => "Evaluation"

namespace Malformed

/-- The wording of the fault. -/
def message : Malformed → String
  | .unrecognized c p => s!"unrecognized character '{c}' at position {p}"
  | .operandAfterOperand p => s!"operand follows operand at position {p}"
  | .operatorWithoutOperand op p =>
    s!"missing operand before operator {op.describe} at position {p}"
  | .consecutiveOperators op p =>
    s!"consecutive operators without intervening operand: {op.describe} at position {p}"
  | .closingWithoutOperand p => s!"missing operand before ')' at position {p}"
  | .unfinished => "missing operand after operator"
  | .unmatched p => s!"mismatched parentheses at position {p}"
  | .empty => "no operands or operators present"

/-- Only an unknown character is a lexical fault. -/
def kind : Malformed → RejectionKind
  | .unrecognized _ _ => .lexical
  | _ => .grammatical

/-- The place of the fault, if it has one. -/
def position? : Malformed → Option Nat
  | .unrecognized _ p | .operandAfterOperand p | .operatorWithoutOperand _ p
  | .consecutiveOperators _ p | .closingWithoutOperand p | .unmatched p => some p
  | .unfinished | .empty => none

end Malformed

/-- The wording of the fault. -/
def Unrunnable.message : Unrunnable → String
  | .notWithoutOperand => "missing operand for NOT"
  | .binaryWithoutOperands op => s!"missing operand for binary operator {op.describe}"
  | .parenthesis c => s!"parenthesis '{c}' in postfix sequence"
  | .noValue => "postfix sequence produced no value"
  | .leftOver n => s!"postfix sequence left {n} unconsumed operands"

/-- Why an expression is rejected. -/
inductive Rejection where
  | malformed (fault : Malformed)
  | unrunnable (fault : Unrunnable)
deriving DecidableEq, Repr

namespace Rejection

/-- The wording of the fault inside. -/
def message : Rejection → String
  | .malformed e => e.message
  | .unrunnable e => e.message

/-- The kind of the fault inside. -/
def kind : Rejection → RejectionKind
  | .malformed e => e.kind
  | .unrunnable _ => .evaluation

end Rejection

end BoolCalc
