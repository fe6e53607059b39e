import BoolCalc.Terminal.Keys
import BoolCalc.Terminal.Paint

/-!
# The calculator on a terminal

The program takes the name of the file of settings as its argument. It expects a terminal in raw
mode, draws the screen before every key, and ends with `q` at the menu. What keys do and what the
screen shows is decided by the shell; here files are read and written for it.
-/

namespace BoolCalc

/-- The file of settings, unless another is named. -/
def usualSettingsName : String := "boolterm.json"

/-- Why the system refused a file. -/
def FileError.ofSystem : IO.Error → FileError
  | .noFileOrDirectory .. => .missing
  | e => .other (toString e)

/-- The answer of the system, refusals included. -/
def attempt {α : Type} (action : IO α) : IO (Except FileError α) := do
  match ← action.toBaseIO with
  | .ok a => return .ok a
  | .error e => return .error (.ofSystem e)

/-- A file of the system. -/
def readSystemFile (name : String) : IO (Except FileError ByteArray) :=
  if name.contains '\x00' then return .error .zeroByte else attempt (IO.FS.readBinFile name)

/-- Replaces a file of the system. -/
def writeSystemFile (name : String) (content : ByteArray) : IO (Except FileError Unit) :=
  if name.contains '\x00' then return .error .zeroByte
  else attempt (IO.FS.writeBinFile name content)

/-- The settings in a file of the system; standard settings if there is none. -/
def loadSystemSettings (name : String) : IO (Except LoadError Settings) := do
  match ← readSystemFile name with
  | .ok bytes => return Settings.decode bytes
  | .error .missing => return .ok .standard
  | .error e => return .error (.file e)

/-- The state after a reaction, with the files of the system; `none` if the shell is stuck. -/
def Reaction.perform : Reaction → IO (Option Shell)
  | .settle next => return some next
  | .read name resume => return some (resume (← readSystemFile name))
  | .write name content resume => return some (resume (← writeSystemFile name content))
  | .copy _ resume => return some (resume (.error "no clipboard"))
  | .stuck => return none

/-- Whether a key ends the program. -/
def Shell.quits (sh : Shell) (p : Press) : Bool := sh.mode = .menu && p.key = .char 'q'

/-- The size of the terminal, as its environment tells it. -/
def terminalSize : IO (Nat × Nat) := do
  let width := ((← IO.getEnv "COLUMNS").bind String.toNat?).getD 80
  let height := ((← IO.getEnv "LINES").bind String.toNat?).getD 24
  return (width, height)

/-- Draws the screen and takes keys until the program ends or the input does. -/
partial def interact (input output : IO.FS.Stream) (sh : Shell) (bytes : List UInt8) :
    IO Unit := do
  match Terminal.next? bytes with
  | some (p, rest) =>
    if sh.quits p then return
    match ← (sh.press p).perform with
    | none => return
    | some next =>
      let (width, height) ← terminalSize
      output.putStr (Terminal.paint (.ofShell width height next))
      output.flush
      interact input output next rest
  | none =>
    let more ← input.read 1
    if more.isEmpty then return
    interact input output sh (bytes ++ more.toList)

end BoolCalc

open BoolCalc in
/-- Runs the calculator. -/
def main (args : List String) : IO Unit := do
  let name := args.headD usualSettingsName
  let sh := Shell.startFrom name (← loadSystemSettings name)
  let (width, height) ← terminalSize
  let output ← IO.getStdout
  output.putStr (Terminal.paint (.ofShell width height sh))
  output.flush
  interact (← IO.getStdin) output sh []
  output.putStr Terminal.leave
  output.flush
