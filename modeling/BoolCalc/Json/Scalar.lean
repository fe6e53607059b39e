import BoolCalc.Json.Blank
import BoolCalc.Json.Number
import BoolCalc.Json.Quote

/-!
# Reading single values

Readers for the values that a document of this library holds: texts, characters, truth values and
natural numbers of 64 bits. A value of another type is named in the fault, and has to be
well-formed up to where its type is known.
-/

namespace BoolCalc.Json

/-- The fault of a value where one of another type is wanted, from its first character on. -/
def mistyped (wanted : String) (text : List Char) : Fault :=
  let found (f : Found) (rest : List Char) : Fault := .here (.wrongType f wanted) rest
  match text with
  | [] => .next .noValue []
  | c :: cs =>
    let after (f : Found) (w : List Char) : Fault :=
      match word w cs with
      | .ok rest => found f rest
      | .error e => e
    let numeral (negative : Bool) (ds : List Char) : Fault :=
      match number negative ds with
      | .ok (n, rest) => found n.found rest
      | .error e => e
    if c = 'n' then after .null ['u', 'l', 'l']
    else if c = 't' then after (.boolean true) ['r', 'u', 'e']
    else if c = 'f' then after (.boolean false) ['a', 'l', 's', 'e']
    else if c = '-' then numeral true cs
    else if c.isDigit then numeral false (c :: cs)
    else if c = '"' then
      match stringBody cs with
      | .ok (s, rest) => found (.string s) rest
      | .error e => e
    else if c = '[' then found .sequence (c :: cs)
    else if c = '\x7b' then found .map (c :: cs)
    else .next .noValue (c :: cs)

/-- A string, for a reader who wants what `wanted` says. -/
def readQuoted (wanted : String) : Reader (List Char) := fun text =>
  match skipSpaces text with
  | [] => .error (.here .endOfValue [])
  | c :: cs => if c = '"' then stringBody cs else .error (mistyped wanted (c :: cs))

/-- A text. -/
def readText : Reader (List Char) := readQuoted "a string"

/-- A character, written as a string of length one. -/
def readCharacter : Reader Char := fun text => do
  let (s, rest) ← readQuoted "a character" text
  match s with
  | [c] => .ok (c, rest)
  | s => .error (.here (.wrongValue (.string s) "a character") rest)

/-- A truth value. -/
def readBoolean : Reader Bool := fun text =>
  match skipSpaces text with
  | [] => .error (.here .endOfValue [])
  | c :: cs =>
    if c = 't' then (word ['r', 'u', 'e'] cs).map (true, ·)
    else if c = 'f' then (word ['a', 'l', 's', 'e'] cs).map (false, ·)
    else .error (mistyped "a boolean" (c :: cs))

/-- A natural number of 64 bits. -/
def readNatural : Reader UInt64 := fun text =>
  let check (r : Number × List Char) : Except Fault (UInt64 × List Char) :=
    match r with
    | (.natural n, rest) => .ok (.ofNat n, rest)
    | (.negative n, rest) => .error (.here (.wrongValue (.integer (-n)) "usize") rest)
    | (n, rest) => .error (.here (.wrongType n.found "usize") rest)
  match skipSpaces text with
  | [] => .error (.here .endOfValue [])
  | c :: cs =>
    if c = '-' then number true cs >>= check
    else if c.isDigit then number false (c :: cs) >>= check
    else .error (mistyped "usize" (c :: cs))

end BoolCalc.Json
