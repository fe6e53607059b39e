import BoolCalc.Shell.Basic

/-!
# Typing and evaluating expressions

Expressions are typed one after the other. An accepted one joins the history, a rejected one
leaves everything but the message as it was, and either way the next line starts empty. Older
expressions can be recalled into the line, from the newest on.
-/

namespace BoolCalc.Shell

variable (sh : Shell)

/-- Begins to take expressions. -/
def beginExpression : Shell :=
  { sh.clearInput with mode := .expression, recalled := none, status := none }

/-- The shell after an evaluation that joins the history. -/
def accept (e : Evaluation) : Shell :=
  let next : Shell :=
    { sh with
      history := trim sh.settings.historyLimit (sh.history ++ [.ofEvaluation e])
      lastEvaluation := some e
      lastError := none }
  { next with
    status := next.resultText.map fun text => s!"The result of the expression is: {text}" }

/-- The shell after an expression was rejected. -/
def reject (reason : Rejection) : Shell :=
  { sh with status := some s!"Error: {reason.message}", lastError := some reason.message }

/-- Evaluates the line and empties it. -/
def submitExpression : Shell :=
  let after :=
    match evaluate sh.symbols (String.ofList sh.input) with
    | .ok e => sh.accept e
    | .error r => sh.reject r
  { after.clearInput with recalled := none }

/-- Goes back to the menu. -/
def leaveExpression : Shell :=
  { sh.clearInput with mode := .menu, recalled := none }

/-- Puts the expression of the entry with index `i`, counted from the newest one, into the line. -/
def recallEntry (i : Nat) : Shell :=
  match sh.history.reverse[i]? with
  | none => sh
  | some e =>
    let chars := e.expression.toList
    { sh with input := chars, cursor := chars.length, recalled := some i }

/-- Recalls the next older expression; the oldest one stays. -/
def recallOlder : Shell :=
  if sh.history.isEmpty then sh
  else
    match sh.recalled with
    | none => sh.recallEntry 0
    | some i => sh.recallEntry (min (i + 1) (sh.history.length - 1))

/-- Recalls the next newer expression; behind the newest one stands an empty line. -/
def recallNewer : Shell :=
  match sh.recalled with
  | none => sh
  | some 0 => { sh.clearInput with recalled := none }
  | some (i + 1) => sh.recallEntry i

end BoolCalc.Shell
