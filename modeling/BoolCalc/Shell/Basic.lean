import BoolCalc.Archive
import BoolCalc.Line

/-!
# The state of the shell

The shell is always in one mode, which says what keys mean. Two lines can be edited, one for
expressions and symbols and one for file names, and they share one cursor. Besides, the shell
holds the settings in force, the history, and what it last had to say.
-/

namespace BoolCalc

/-- What a file name is asked for. -/
inductive Purpose where
  | saveSession
  | loadSession
  | exportHistory
  | exportGates
deriving DecidableEq, Repr

/-- The modes of the shell. -/
inductive Mode where
  /-- Keys are commands. -/
  | menu
  /-- An expression is typed. -/
  | expression
  /-- The symbol for true is typed. -/
  | trueSymbol
  /-- The symbol for false is typed. -/
  | falseSymbol
  /-- The gate table is shown. -/
  | gates
  /-- The help is shown. -/
  | help
  /-- A file name is typed. -/
  | naming (purpose : Purpose)
deriving DecidableEq, Repr

/-- The state of the shell. -/
structure Shell where
  settings : Settings
  mode : Mode
  /-- The line for expressions and symbols. -/
  input : List Char
  /-- The line for file names. -/
  nameInput : List Char
  /-- The cursor of the line that is edited. -/
  cursor : Nat
  /-- The file that the session was last saved to or loaded from. -/
  sessionName : Option String
  /-- How many lines the help was scrolled down. -/
  helpScroll : Nat
  status : Option String
  /-- The evaluations that are kept, oldest first. -/
  history : List HistoryEntry
  lastEvaluation : Option Evaluation
  /-- Why the last expression was rejected. -/
  lastError : Option String
  /-- The entry that was recalled, counted from the newest one. -/
  recalled : Option Nat
  /-- The symbols that are being defined, once the one for true is accepted. -/
  pending : Option Symbols
  /-- The file to which new symbols are written. -/
  settingsName : Option String

namespace Shell

/-- The shell as it starts. -/
def start (settings : Settings) (settingsName : Option String) : Shell where
  settings := settings
  mode := .menu
  input := []
  nameInput := []
  cursor := 0
  sessionName := none
  helpScroll := 0
  status := none
  history := []
  lastEvaluation := none
  lastError := none
  recalled := none
  pending := none
  settingsName := settingsName

/-- The shell as it starts from the settings in a file, as far as they can be loaded. -/
def startFrom (name : String) : Except LoadError Settings → Shell
  | .ok settings => start settings (some name)
  | .error e =>
    { start .standard (some name) with
      status := some s!"Could not read {name}: {e.message} (using defaults)" }

variable (sh : Shell)

/-- The symbols in force. -/
def symbols : Symbols := sh.settings.symbols

/-- What a session file of this moment holds. -/
def session : Session := ⟨sh.settings, sh.history⟩

/-- The line that keys edit. -/
def line : Line :=
  match sh.mode with
  | .naming _ => ⟨sh.nameInput, sh.cursor⟩
  | _ => ⟨sh.input, sh.cursor⟩

/-- The shell with another line in the place of the one that keys edit. -/
def withLine (l : Line) : Shell :=
  match sh.mode with
  | .naming _ => { sh with nameInput := l.chars, cursor := l.cursor }
  | _ => { sh with input := l.chars, cursor := l.cursor }

/-- The shell after an edit of the line. -/
def edit (f : Line → Line) : Shell := sh.withLine (f sh.line)

/-- The shell without the character before the cursor, if there is one to delete. -/
def deleteBefore? : Option Shell := sh.line.deleteBefore?.map sh.withLine

/-- The shell with an empty line for expressions. -/
def clearInput : Shell := { sh with input := [], cursor := 0 }

/-- The last value as shown, such as `F (False)`. -/
def resultText : Option String :=
  sh.lastEvaluation.map fun e =>
    let word := if e.value then "True" else "False"
    s!"{e.symbol} ({word})"

/-- The last expression and its value, for the clipboard. -/
def clipboardText : Option String :=
  sh.lastEvaluation.map fun e =>
    let expression := String.ofList (Text.trim e.expression.toList)
    s!"{expression} = {e.symbol}"

/-- The last entries of a history, as many as are kept. -/
def trim (limit : UInt64) (h : List HistoryEntry) : List HistoryEntry :=
  h.drop (h.length - limit.toNat)

end Shell

end BoolCalc
