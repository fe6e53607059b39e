import BoolCalc.Symbols
import BoolCalc.Text.Quoted

/-!
# Faults of a JSON text

A text is read once, from left to right, and the first fault ends the reading. A fault has a
cause and a place. The cause falls into one of three categories: the text ends too early, it is
no JSON, or it is JSON of another shape than the reader wants. The place is kept as the text
that was left unread, from which line and column are counted once the whole text is known.
-/

namespace BoolCalc.Json

/-- What stands where something else is wanted. -/
inductive Found where
  | null
  | boolean (value : Bool)
  | integer (value : Int)
  | decimal (text : List Char)
  | string (text : List Char)
  | sequence
  | map
deriving DecidableEq, Repr

/-- How a message names it. -/
def Found.describe : Found → String
  | .null => "null"
  | .boolean b => s!"boolean `{b}`"
  | .integer n => s!"integer `{n}`"
  | .decimal cs => s!"floating point `{String.ofList cs}`"
  | .string cs => "string " ++ String.ofList (Text.quoted cs)
  | .sequence => "sequence"
  | .map => "map"

/-- The categories of faults. -/
inductive Category where
  | eof
  | invalid
  | data
deriving DecidableEq, Repr

/-- Why a text is refused. -/
inductive Cause where
  /-- The text ends inside a value, a list, an object or a string. -/
  | endOfValue
  | endOfList
  | endOfObject
  | endOfString
  /-- No value, word, colon, comma or quote stands where one is due. -/
  | noValue
  | noWord
  | noColon
  | noListEnd
  | noObjectEnd
  | keyNotString
  | trailingComma
  | trailingText
  /-- A number or a string is written in a wrong way. -/
  | badNumber
  | outOfRange
  | badEscape
  | loneSurrogate
  | brokenPair
  | controlCharacter
  /-- The value has another type than is wanted. -/
  | wrongType (found : Found) (wanted : String)
  /-- The value has the type that is wanted, but not the range. -/
  | wrongValue (found : Found) (wanted : String)
  /-- A list of fields is too short. -/
  | wrongLength (length : Nat) (wanted : String)
  | missingField (name : String)
  | duplicateField (name : String)
  /-- A pair of symbols is refused. -/
  | badSymbols (reason : SymbolError)
deriving DecidableEq, Repr

namespace Cause

/-- The category of a cause. -/
def category : Cause → Category
  | .endOfValue | .endOfList | .endOfObject | .endOfString => .eof
  | .wrongType _ _ | .wrongValue _ _ | .wrongLength _ _ | .missingField _ | .duplicateField _
  | .badSymbols _ => .data
  | _ => .invalid

/-- The wording of a cause. -/
def message : Cause → String
  | .endOfValue => "EOF while parsing a value"
  | .endOfList => "EOF while parsing a list"
  | .endOfObject => "EOF while parsing an object"
  | .endOfString => "EOF while parsing a string"
  | .noValue => "expected value"
  | .noWord => "expected ident"
  | .noColon => "expected `:`"
  | .noListEnd => "expected `,` or `]`"
  | .noObjectEnd => "expected `,` or `\x7d`"
  | .keyNotString => "key must be a string"
  | .trailingComma => "trailing comma"
  | .trailingText => "trailing characters"
  | .badNumber => "invalid number"
  | .outOfRange => "number out of range"
  | .badEscape => "invalid escape"
  | .loneSurrogate => "lone leading surrogate in hex escape"
  | .brokenPair => "unexpected end of hex escape"
  | .controlCharacter =>
    "control character (\\u0000-\\u001F) found while parsing a string"
  | .wrongType found wanted => s!"invalid type: {found.describe}, expected {wanted}"
  | .wrongValue found wanted => s!"invalid value: {found.describe}, expected {wanted}"
  | .wrongLength n wanted => s!"invalid length {n}, expected {wanted}"
  | .missingField name => s!"missing field `{name}`"
  | .duplicateField name => s!"duplicate field `{name}`"
  | .badSymbols reason => reason.message

end Cause

/-- A cause and its place. -/
structure Fault where
  cause : Cause
  /-- The text left unread. -/
  rest : List Char
  /-- How many bytes further the place is, at most to the end of the text. -/
  ahead : Nat
  /-- A fault in what a list or an object holds is placed behind its end, by whoever reads the
  end; until then this is false. -/
  placed : Bool
deriving DecidableEq, Repr

namespace Fault

/-- A fault just before the unread text. -/
def here (cause : Cause) (rest : List Char) : Fault := ⟨cause, rest, 0, true⟩

/-- A fault at the first byte of the unread text. -/
def next (cause : Cause) (rest : List Char) : Fault := ⟨cause, rest, 1, true⟩

/-- A fault without a place yet. -/
def floating (cause : Cause) (rest : List Char) : Fault := ⟨cause, rest, 0, false⟩

/-- The fault, placed before `rest` if it has no place yet. -/
def place (f : Fault) (rest : List Char) : Fault :=
  if f.placed then f else here f.cause rest

/-- The bytes of a text. -/
def bytes (cs : List Char) : List UInt8 := cs.flatMap String.utf8EncodeChar

/-- The bytes of the whole text up to the fault. -/
def consumed (f : Fault) (whole : List Char) : List UInt8 :=
  let all := bytes whole
  all.take (all.length - ((bytes f.rest).length - f.ahead))

/-- The line of the fault, from one, and how many bytes of it precede the fault. -/
def position (f : Fault) (whole : List Char) : Nat × Nat :=
  let before := f.consumed whole
  (before.count 10 + 1, (before.reverse.takeWhile (· != 10)).length)

/-- The wording of the fault in a text. -/
def message (f : Fault) (whole : List Char) : String :=
  let (line, column) := f.position whole
  s!"{f.cause.message} at line {line} column {column}"

end Fault

/-- A way to read a value off the front of a text. -/
abbrev Reader (α : Type) := List Char → Except Fault (α × List Char)

end BoolCalc.Json
