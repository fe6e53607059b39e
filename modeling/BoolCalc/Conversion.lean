import BoolCalc.Lexeme
import BoolCalc.Trail

/-!
# From expressions to reverse Polish sequences

An expression is read once, lexeme by lexeme. The tokens of the result are emitted in order;
operators and opening parentheses wait on a stack until what follows lets them go. An operator
that arrives sends off those above the innermost open parenthesis to which it yields, and these are
told of. The reader remembers whether an operand is due, so it refuses the first lexeme with which
no expression can go on.
-/

namespace BoolCalc

/-- What waits on the stack. -/
inductive Pending where
  | operator (op : Operator)
  | opening (position : Nat)
deriving DecidableEq, Repr

namespace Pending

/-- Whether an arriving operator sends the entry off. -/
def leavesFor (arriving : Operator) : Pending → Bool
  | .operator op => arriving.yieldsTo op
  | .opening _ => false

/-- The operator that waits, if the entry is one. -/
def operator? : Pending → Option Operator
  | .operator op => some op
  | .opening _ => none

/-- The place of the parenthesis that waits, if the entry is one. -/
def opening? : Pending → Option Nat
  | .operator _ => none
  | .opening p => some p

end Pending

/-- The state of a conversion between two lexemes. -/
structure Conversion where
  /-- The tokens of the result so far, last one first. -/
  emitted : List Token
  /-- The waiting operators and parentheses, last one first. -/
  pending : List Pending
  /-- Whether an operand is due. -/
  wantsOperand : Bool
  /-- The token read last. -/
  previous : Option Token
deriving DecidableEq, Repr

namespace Conversion

/-- The state before the first lexeme. -/
def start : Conversion := ⟨[], [], true, none⟩

/-- The refusal of a binary operator where an operand is due. -/
def operatorFault (st : Conversion) (op : Operator) (position : Nat) : Malformed :=
  match st.previous with
  | some (.operator _) => .consecutiveOperators op position
  | _ => .operatorWithoutOperand op position

/-- The operators that an arriving one sends off, in the order in which they leave. -/
def leaving (st : Conversion) (op : Operator) : List Operator :=
  (st.pending.takeWhile (·.leavesFor op)).filterMap Pending.operator?

/-- The state after an operator that may stand where it stands. -/
def push (st : Conversion) (op : Operator) : Conversion :=
  { emitted := ((st.leaving op).map Token.operator).reverse ++ st.emitted
    pending := .operator op :: st.pending.dropWhile (·.leavesFor op)
    wantsOperand := true
    previous := some (.operator op) }

/-- The state after a closing parenthesis that may stand at `position`: all that waits above the
innermost open parenthesis is sent off, and the parenthesis is dropped. -/
def close (st : Conversion) (position : Nat) : Except Malformed Conversion :=
  let leaving := (st.pending.takeWhile (·.opening?.isNone)).filterMap Pending.operator?
  match st.pending.dropWhile (·.opening?.isNone) with
  | [] => .error (.unmatched position)
  | _ :: rest =>
    .ok
      { emitted := (leaving.map Token.operator).reverse ++ st.emitted
        pending := rest
        wantsOperand := false
        previous := some .closing }

/-- The state after one more token. -/
def read (st : Conversion) (position : Nat) : Token → Except Malformed Conversion
  | .literal b =>
    if st.wantsOperand then
      .ok { st with
        emitted := .literal b :: st.emitted
        wantsOperand := false
        previous := some (.literal b) }
    else .error (.operandAfterOperand position)
  | .operator op =>
    if op.isUnary then
      if st.wantsOperand then .ok (st.push op) else .error (.consecutiveOperators op position)
    else
      if st.wantsOperand then .error (st.operatorFault op position) else .ok (st.push op)
  | .opening =>
    if st.wantsOperand then
      .ok { st with pending := .opening position :: st.pending, previous := some .opening }
    else .error (.operandAfterOperand position)
  | .closing =>
    if st.wantsOperand then .error (.closingWithoutOperand position) else st.close position

/-- The state after one more lexeme. -/
def step (st : Conversion) (x : Lexeme) : Except Malformed Conversion :=
  x.read >>= st.read x.position

/-- The state after a sequence of lexemes. -/
def run (st : Conversion) (xs : List Lexeme) : Except Malformed Conversion :=
  xs.foldlM step st

@[simp] theorem run_nil (st : Conversion) : st.run [] = .ok st := rfl

@[simp] theorem run_cons (st : Conversion) (x : Lexeme) (xs : List Lexeme) :
    st.run (x :: xs) = (st.step x).bind fun st' => st'.run xs := rfl

theorem run_append (st : Conversion) (xs ys : List Lexeme) :
    st.run (xs ++ ys) = (st.run xs).bind fun st' => st'.run ys := by
  simp only [run, List.foldlM_append]
  rfl

/-- The result, once the lexemes have ended: what still waits follows what is emitted. -/
def finish (st : Conversion) : Except Malformed (List Token) :=
  if st.wantsOperand then .error .unfinished
  else
    match st.pending.findSome? Pending.opening? with
    | some p => .error (.unmatched p)
    | none => .ok (st.emitted.reverse ++ (st.pending.filterMap Pending.operator?).map .operator)

/-- The operators that precedence sends off when the lexeme is read. -/
def sentBy (st : Conversion) (x : Lexeme) : List Operator :=
  match x.token? with
  | some (.operator op) => st.leaving op
  | _ => []

/-- The state after one more lexeme, with what is told of the reading. -/
def tellStep (st : Conversion) (x : Lexeme) : Told Malformed Conversion :=
  match st.step x with
  | .ok st' => ⟨(st.sentBy x).map .displaced, .ok st'⟩
  | .error e => .untold (.error e)

@[simp] theorem outcome_tellStep (st : Conversion) (x : Lexeme) :
    (st.tellStep x).outcome = st.step x := by
  rw [tellStep]
  cases st.step x <;> rfl

end Conversion

/-- The reverse Polish sequence of an expression, with what is told of the reading. -/
def tellRpn (s : Symbols) (cs : List Char) : Told Malformed (List Token) :=
  match Lexeme.scan s cs with
  | [] => .untold (.error .empty)
  | xs => xs.foldlM Conversion.tellStep .start >>= fun st => .untold st.finish

/-- The reverse Polish sequence of an expression. -/
def toRpn (s : Symbols) (cs : List Char) : Except Malformed (List Token) :=
  (tellRpn s cs).outcome

@[simp] theorem outcome_tellRpn (s : Symbols) (cs : List Char) :
    (tellRpn s cs).outcome = toRpn s cs := rfl

theorem toRpn_eq (s : Symbols) (cs : List Char) :
    toRpn s cs =
      match Lexeme.scan s cs with
      | [] => .error .empty
      | xs => Conversion.start.run xs >>= Conversion.finish := by
  rw [toRpn, tellRpn]
  cases Lexeme.scan s cs with
  | nil => rfl
  | cons x xs =>
    simp only [Told.outcome_bind, Told.outcome_foldlM, Conversion.outcome_tellStep]
    rfl

end BoolCalc
