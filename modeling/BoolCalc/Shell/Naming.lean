import BoolCalc.Shell.Basic

/-!
# Asking for file names

A session is saved or loaded, and the history or the gate table exported, under a name that is
typed at a prompt. The prompt starts with a name; an emptied one stands for the usual name. Every
outcome is told in the status and leads back to the menu.
-/

namespace BoolCalc

/-- The file of a session, unless another is named. -/
def usualSessionName : String := "session.boolterm"

/-- The usual name of a file. -/
def Purpose.usualName : Purpose → String
  | .saveSession | .loadSession => usualSessionName
  | .exportHistory => "history.csv"
  | .exportGates => "truth_table.csv"

namespace Shell

variable (sh : Shell)

/-- The name with which a prompt starts. -/
def proposedName (purpose : Purpose) : String :=
  match purpose with
  | .saveSession | .loadSession => sh.sessionName.getD purpose.usualName
  | .exportHistory | .exportGates => purpose.usualName

/-- Asks for a name. -/
def beginNaming (purpose : Purpose) : Shell :=
  let chars := (sh.proposedName purpose).toList
  { sh with
    mode := .naming purpose
    cursor := chars.length
    nameInput := chars
    status := none }

/-- Goes back from a prompt to the menu. -/
def leaveNaming : Shell := { sh with mode := .menu, nameInput := [], cursor := 0 }

/-- The name that the prompt stands for. -/
def promptName : String :=
  if sh.nameInput.isEmpty then
    match sh.mode with
    | .naming purpose => purpose.usualName
    | _ => usualSessionName
  else String.ofList sh.nameInput

/-- Tells whether a session was saved, and under which name. -/
def saved (outcome : Except String String) : Shell :=
  let after : Shell :=
    match outcome with
    | .ok name => { sh with status := some s!"Saved to {name}", sessionName := some name }
    | .error reason => { sh with status := some s!"Save failed: {reason}" }
  after.leaveNaming

/-- Takes over a session that was loaded, or tells why there is none. -/
def loaded (outcome : Except String (Session × String)) : Shell :=
  let after : Shell :=
    match outcome with
    | .ok (s, name) =>
      { sh with
        settings := s.settings
        history := trim s.settings.historyLimit s.history
        lastEvaluation := none
        lastError := none
        status := some s!"Loaded from {name}"
        sessionName := some name }
    | .error reason => { sh with status := some s!"Load failed: {reason}" }
  after.leaveNaming

/-- Tells whether a table was exported. -/
def exported (outcome : Except String String) : Shell :=
  let text :=
    match outcome with
    | .ok name => s!"Exported to {name}"
    | .error reason => s!"Export failed: {reason}"
  { sh with status := some text }.leaveNaming

/-- Tells whether the clipboard took the last result. -/
def copied (outcome : Except String Unit) : Shell :=
  let text :=
    match outcome with
    | .ok () => "Copied last result to clipboard"
    | .error reason => s!"Copy failed: {reason}"
  { sh with status := some text }

end Shell

end BoolCalc
