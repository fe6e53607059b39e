import BoolCalc.Conversion
import BoolCalc.Rpn

/-!
# Evaluating expressions

An expression is converted and its reverse Polish sequence is run. The outcome keeps the text as
typed and the symbols it was read with, so that it can be shown unchanged after the symbols in
force have changed. The same computation gives the trail: of the reading, then, if the text is an
expression, of the run, then the outcome.
-/

namespace BoolCalc

/-- The outcome of evaluating an expression. -/
structure Evaluation where
  expression : String
  /-- The reverse Polish sequence as text. -/
  rpn : String
  value : Bool
  symbols : Symbols
deriving DecidableEq

namespace Evaluation

/-- The value, spelled with the symbols of the expression. -/
def symbol (e : Evaluation) : Char := e.symbols.spell e.value

end Evaluation

variable (s : Symbols)

/-- The reverse Polish sequence of an expression and its value, with what is told of both. -/
def tellCompute (cs : List Char) : Told Rejection (List Token × Bool) := do
  let ts ← (tellRpn s cs).mapError .malformed
  let b ← (Rpn.tell s ts).mapError .unrunnable
  return (ts, b)

/-- The reverse Polish sequence of an expression and its value. -/
def compute (cs : List Char) : Except Rejection (List Token × Bool) := (tellCompute s cs).outcome

theorem compute_eq (cs : List Char) :
    compute s cs =
      match toRpn s cs with
      | .error e => .error (.malformed e)
      | .ok ts =>
        match Rpn.eval s ts with
        | .error e => .error (.unrunnable e)
        | .ok b => .ok (ts, b) := by
  simp only [compute, tellCompute, Told.outcome_bind, Told.outcome_mapError, outcome_tellRpn,
    Rpn.outcome_tell]
  cases toRpn s cs with
  | error e => rfl
  | ok ts =>
    change (do let b ← (Rpn.eval s ts).mapError Rejection.unrunnable; pure (ts, b)) =
      match Rpn.eval s ts with
      | .error e => .error (.unrunnable e)
      | .ok b => .ok (ts, b)
    cases Rpn.eval s ts <;> rfl

/-- The value of an expression. -/
def evaluateValue (text : String) : Except Rejection Bool :=
  (compute s text.toList).map Prod.snd

/-- The evaluation of an expression, with all that is told of it. -/
def tellEvaluation (text : String) : Told Rejection Evaluation :=
  let computed := tellCompute s text.toList
  match computed.outcome with
  | .ok (ts, b) =>
    ⟨computed.trail ++ [.evaluated text b], .ok ⟨text, String.ofList (Rpn.format s ts), b, s⟩⟩
  | .error r => ⟨computed.trail ++ [.rejected text r], .error r⟩

/-- The evaluation of an expression. -/
def evaluate (text : String) : Except Rejection Evaluation := (tellEvaluation s text).outcome

theorem evaluate_eq (text : String) :
    evaluate s text =
      (compute s text.toList).map fun r => ⟨text, String.ofList (Rpn.format s r.1), r.2, s⟩ := by
  rw [evaluate, tellEvaluation, ← compute]
  cases compute s text.toList <;> rfl

/-- The trail of `evaluate`. -/
def trail (text : String) : List Event := (tellEvaluation s text).trail

end BoolCalc
