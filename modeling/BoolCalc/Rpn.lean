import BoolCalc.Token
import BoolCalc.Trail

/-!
# Reverse Polish sequences

A sequence of tokens in which every operator follows its operands. `run` reads it from left to
right on a stack of values and checks each token before it is taken, so a sequence that no
expression gives rise to is refused with a reason. The tokens carry their values, so the symbols
only spell what is told. `format` writes a sequence as text.
-/

namespace BoolCalc.Rpn

variable (s : Symbols)

/-- The stack, last value first, after one more token. -/
def step (stack : List Bool) : Token → Except Unrunnable (List Bool)
  | .literal b => .ok (b :: stack)
  | .operator op =>
    if op.isUnary then
      match stack with
      | a :: rest => .ok ((op.unary? a).toList ++ rest)
      | [] => .error .notWithoutOperand
    else
      match stack with
      | b :: a :: rest => .ok ((op.binary? a b).toList ++ rest)
      | _ => .error (.binaryWithoutOperands op)
  | .opening => .error (.parenthesis (Token.opening.spell s))
  | .closing => .error (.parenthesis (Token.closing.spell s))

/-- The stack after a sequence. -/
def run (stack : List Bool) (ts : List Token) : Except Unrunnable (List Bool) :=
  ts.foldlM (step s) stack

@[simp] theorem run_nil (stack : List Bool) : run s stack [] = .ok stack := rfl

@[simp] theorem run_cons (stack : List Bool) (t : Token) (ts : List Token) :
    run s stack (t :: ts) = (step s stack t).bind fun st => run s st ts := rfl

theorem run_append (stack : List Bool) (ts us : List Token) :
    run s stack (ts ++ us) = (run s stack ts).bind fun st => run s st us := by
  simp only [run, List.foldlM_append]
  rfl

/-- The value that a finished stack stands for: its only element. -/
def result : List Bool → Except Unrunnable Bool
  | [] => .error .noValue
  | [b] => .ok b
  | _ :: rest => .error (.leftOver rest.length)

/-- What is told of a token: the depth that it leaves, or else that it is a parenthesis. -/
def told (t : Token) : Except Unrunnable (List Bool) → List Event
  | .ok st => [.taken (t.spell s) st.length]
  | .error (.parenthesis c) => [.parenthesis c]
  | .error _ => []

/-- The stack after one more token, with what is told of it. -/
def tellStep (stack : List Bool) (t : Token) : Told Unrunnable (List Bool) :=
  ⟨told s t (step s stack t), step s stack t⟩

/-- The value of a sequence, with what is told of the run. -/
def tell (ts : List Token) : Told Unrunnable Bool :=
  ts.foldlM (tellStep s) [] >>= fun st => .untold (result st)

/-- The value of a sequence. -/
def eval (ts : List Token) : Except Unrunnable Bool := (tell s ts).outcome

@[simp] theorem outcome_tell (ts : List Token) : (tell s ts).outcome = eval s ts := rfl

theorem eval_eq (ts : List Token) : eval s ts = run s [] ts >>= result := by
  rw [eval, tell, Told.outcome_bind, Told.outcome_foldlM]
  rfl

/-- The sequence as text: the characters of its tokens with one space between them. -/
def format (ts : List Token) : List Char :=
  (ts.map (·.spell s)).intersperse ' '

end BoolCalc.Rpn
