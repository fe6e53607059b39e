import BoolCalc.Shell.Expression
import BoolCalc.Shell.Naming
import BoolCalc.Shell.Symbols

/-!
# Keys

What a key does in each mode. A key settles the next state of the shell, or it first needs an
answer from outside: a file to be read or written, or a text to be put on the clipboard. Then the
reaction says what is needed and how the shell goes on with the answer, so that the shell itself
stays apart from files.
-/

namespace BoolCalc

/-- The keys that the shell tells apart. -/
inductive Key where
  | char (c : Char)
  | enter
  | escape
  | up
  | down
  | left
  | right
  | home
  | toEnd
  | pageUp
  | pageDown
  | backspace
  | delete
  | function (n : Nat)
  /-- Any key without a meaning. -/
  | other
deriving DecidableEq, Repr

/-- A key with or without the control key; the other modifiers have no meaning. -/
structure Press where
  key : Key
  control : Bool
deriving DecidableEq, Repr

/-- What a key leads to. -/
inductive Reaction where
  /-- The next state. -/
  | settle (next : Shell)
  /-- A file is to be read. -/
  | read (name : String) (resume : Except FileError ByteArray → Shell)
  /-- A file is to be written. -/
  | write (name : String) (content : ByteArray) (resume : Except FileError Unit → Shell)
  /-- A text is to be copied. -/
  | copy (text : String) (resume : Except String Unit → Shell)
  /-- There is no character to delete where the cursor stands. -/
  | stuck

/-- The state and the files after a reaction, with the files of a store; `none` if the shell is
stuck. The clipboard takes every text. -/
def Reaction.carryOut (st : Store) : Reaction → Option (Shell × Store)
  | .settle next => some (next, st)
  | .read name resume => some (resume (st.read name), st)
  | .write name content resume =>
    match st.write name content with
    | .ok st' => some (resume (.ok ()), st')
    | .error e => some (resume (.error e), st)
  | .copy _ resume => some (resume (.ok ()), st)
  | .stuck => none

namespace Shell

variable (sh : Shell)

/-- Shows the gate table. -/
def showGates : Shell := { sh with mode := .gates, status := none }

/-- Shows the help from its first line. -/
def showHelp : Shell := { sh with mode := .help, helpScroll := 0 }

/-- Closes the gate table or the help. -/
def closeView : Shell := { sh with mode := .menu }

/-- A key that edits the line. -/
def editKey (key : Key) : Reaction :=
  match key with
  | .backspace =>
    match sh.deleteBefore? with
    | some next => .settle next
    | none => .stuck
  | .delete => .settle (sh.edit Line.deleteAt)
  | .left => .settle (sh.edit Line.left)
  | .right => .settle (sh.edit Line.right)
  | .home => .settle (sh.edit Line.home)
  | .toEnd => .settle (sh.edit Line.toEnd)
  | .char c => .settle (sh.edit (·.insert c))
  | _ => .settle sh

/-- Copies the last result. -/
def copyResult : Reaction :=
  match sh.clipboardText with
  | some text => .copy text sh.copied
  | none => .settle { sh with status := some "Nothing to copy yet" }

/-- A key with the control key at the menu. -/
def controlKey (key : Key) : Reaction :=
  match key with
  | .char 's' => .settle (sh.beginNaming .saveSession)
  | .char 'o' => .settle (sh.beginNaming .loadSession)
  | .char 'e' => .settle (sh.beginNaming .exportHistory)
  | .char 't' => .settle (sh.beginNaming .exportGates)
  | .char 'y' => sh.copyResult
  | _ => .settle sh

/-- A key at the menu. -/
def menuKey (key : Key) : Shell :=
  let sh := { sh with status := none }
  match key with
  | .enter | .char 'e' | .char '1' => sh.beginExpression
  | .char 't' | .char '2' => sh.showGates
  | .char 'd' | .char '3' => sh.beginSymbols
  | .function 1 | .char '?' => sh.showHelp
  | _ => sh

/-- A key while an expression is typed. -/
def expressionKey (key : Key) : Reaction :=
  match key with
  | .enter => .settle sh.submitExpression
  | .escape => .settle sh.leaveExpression
  | .up => .settle sh.recallOlder
  | .down => .settle sh.recallNewer
  | _ => sh.editKey key

/-- Takes the symbol that is typed; symbols that change are written to the file of settings. -/
def submitSymbolKey : Reaction :=
  let next := sh.submitSymbol
  if next.symbols = sh.symbols then .settle next
  else
    match next.settingsName with
    | none => .settle next
    | some name =>
      .write name next.settings.encode fun
        | .ok () => next
        | .error e => next.symbolsUnsaved e.message

/-- A key while a symbol is typed. -/
def symbolKey (key : Key) : Reaction :=
  match key with
  | .enter => sh.submitSymbolKey
  | .escape => .settle sh.leaveSymbols
  | _ => sh.editKey key

/-- A key while the gate table is shown. -/
def gatesKey (press : Press) : Shell :=
  match press.key with
  | .char 't' => if press.control then sh.beginNaming .exportGates else sh.closeView
  | .escape | .char 'q' | .enter => sh.closeView
  | _ => sh

/-- A key while the help is shown. -/
def helpKey (key : Key) : Shell :=
  match key with
  | .escape | .function 1 | .char '?' | .char 'q' => sh.closeView
  | .up | .char 'k' => { sh with helpScroll := sh.helpScroll - 1 }
  | .down | .char 'j' => { sh with helpScroll := sh.helpScroll + 1 }
  | .pageUp => { sh with helpScroll := sh.helpScroll - 5 }
  | .pageDown => { sh with helpScroll := sh.helpScroll + 5 }
  | .home => { sh with helpScroll := 0 }
  | _ => sh

/-- The name of a file, or why it could not be written. -/
def written (name : String) : Except FileError Unit → Except String String
  | .ok () => .ok name
  | .error e => .error e.message

/-- Does what a name was asked for. -/
def submitName (purpose : Purpose) : Reaction :=
  let name := sh.promptName
  match purpose with
  | .saveSession => .write name sh.session.encode fun r => sh.saved (written name r)
  | .loadSession =>
    .read name fun r =>
      match Session.ofReply r with
      | .ok s => sh.loaded (.ok (s, name))
      | .error e => sh.loaded (.error e.message)
  | .exportHistory =>
    match Csv.encodeHistory sh.history with
    | .ok content => .write name content fun r => sh.exported (written name r)
    | .error e => .settle (sh.exported (.error e.message))
  | .exportGates =>
    .write name (Csv.encodeGates sh.symbols) fun r => sh.exported (written name r)

/-- A key while a name is typed. -/
def namingKey (purpose : Purpose) (key : Key) : Reaction :=
  match key with
  | .enter => sh.submitName purpose
  | .escape => .settle sh.leaveNaming
  | _ => sh.editKey key

/-- What a key leads to. -/
def press (p : Press) : Reaction :=
  match sh.mode with
  | .menu => if p.control then sh.controlKey p.key else .settle (sh.menuKey p.key)
  | .expression => sh.expressionKey p.key
  | .trueSymbol | .falseSymbol => sh.symbolKey p.key
  | .gates => .settle (sh.gatesKey p)
  | .help => .settle (sh.helpKey p.key)
  | .naming purpose => sh.namingKey purpose p.key

end Shell

/-- The state and the files after a sequence of keys; `none` if the shell gets stuck. -/
def pressAll (sh : Shell) (st : Store) : List Press → Option (Shell × Store)
  | [] => some (sh, st)
  | p :: ps =>
    match (sh.press p).carryOut st with
    | some (sh', st') => pressAll sh' st' ps
    | none => none

end BoolCalc
