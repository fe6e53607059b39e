import BoolCalc.Json.Scalar
import BoolCalc.Json.Skip

/-!
# Reading lists and records

A record is written as an object whose members are its fields, in any order and among other
members, or as the list of its fields in order. Reading fills a draft field by field. A field
given twice is refused at once, a field that is missing at the end of the record; what is wrong
with a record as a whole is placed behind its end.
-/

namespace BoolCalc.Json

/-- The text behind a closing bracket. -/
def closeList (text : List Char) : Except Fault (List Char) :=
  match skipSpaces text with
  | [] => .error (.here .endOfList [])
  | ']' :: cs => .ok cs
  | ',' :: cs =>
    match skipSpaces cs with
    | ']' :: ds => .error (.next .trailingComma (']' :: ds))
    | ds => .error (.next .trailingText ds)
  | cs => .error (.next .trailingText cs)

/-- Where a list is left, closed or not. -/
def afterList (text : List Char) : List Char :=
  match skipSpaces text with
  | ']' :: cs => cs
  | ',' :: cs => skipSpaces cs
  | cs => cs

/-- The text behind a closing brace. -/
def closeObject (text : List Char) : Except Fault (List Char) :=
  match skipSpaces text with
  | [] => .error (.here .endOfObject [])
  | '\x7d' :: cs => .ok cs
  | ',' :: cs => .error (.next .trailingComma (',' :: cs))
  | cs => .error (.next .trailingText cs)

/-- Where an object is left, closed or not. -/
def afterObject (text : List Char) : List Char :=
  match skipSpaces text with
  | '\x7d' :: cs => cs
  | cs => cs

/-- The text behind a colon. -/
def colon (text : List Char) : Except Fault (List Char) :=
  match skipSpaces text with
  | [] => .error (.here .endOfObject [])
  | ':' :: cs => .ok cs
  | cs => .error (.next .noColon cs)

variable {α σ : Type}

/-- What was read inside brackets, once they are closed. -/
def within (close : List Char → Except Fault (List Char)) (after : List Char → List Char)
    (inner : Except Fault (α × List Char)) : Except Fault (α × List Char) :=
  match inner with
  | .error f => .error (f.place (after f.rest))
  | .ok (a, rest) => (close rest).map fun rest' => (a, rest')

/-- Where the next element of a list begins, or `none` if the list ends here. -/
def nextElement (first : Bool) (text : List Char) : Except Fault (Option (List Char)) :=
  match skipSpaces text with
  | [] => .error (.here .endOfList [])
  | ']' :: _ => .ok none
  | c :: cs =>
    if first then .ok (some (c :: cs))
    else if c = ',' then
      match skipSpaces cs with
      | [] => .error (.here .endOfValue [])
      | ']' :: ds => .error (.next .trailingComma (']' :: ds))
      | ds => .ok (some ds)
    else .error (.next .noListEnd (c :: cs))

/-- Where the key of the next member of an object begins, behind its quote, or `none` if the
object ends here. -/
def nextKey (first : Bool) (text : List Char) : Except Fault (Option (List Char)) :=
  let key : List Char → Except Fault (Option (List Char))
    | [] => .error (.here .endOfValue [])
    | '"' :: cs => .ok (some cs)
    | '\x7d' :: cs => .error (.next .trailingComma ('\x7d' :: cs))
    | cs => .error (.next .keyNotString cs)
  match skipSpaces text with
  | [] => .error (.here .endOfObject [])
  | '\x7d' :: _ => .ok none
  | c :: cs =>
    if first then key (c :: cs)
    else if c = ',' then key (skipSpaces cs)
    else .error (.next .noObjectEnd (c :: cs))

/-- The elements of a list up to its end; the bound is the number of characters. -/
def elements (element : Reader α) : Nat → Bool → Reader (List α)
  | 0, _, _ => .error (.here .endOfList [])
  | fuel + 1, first, text => do
    match ← nextElement first text with
    | none => .ok ([], text)
    | some cs =>
      let (a, rest) ← element cs
      let (as, rest') ← elements element fuel false rest
      .ok (a :: as, rest')

/-- A list. -/
def readList (element : Reader α) : Reader (List α) := fun text =>
  match skipSpaces text with
  | [] => .error (.here .endOfValue [])
  | c :: cs =>
    if c = '[' then
      within closeList afterList (elements element (cs.length + 1) true cs)
    else .error (mistyped "a sequence" (c :: cs))

/-- A field of a record: its key, whether a draft has it, and how it is read into a draft. -/
structure RecordField (σ : Type) where
  name : String
  given : σ → Bool
  read : σ → Reader σ

/-- The shape of a record that is read through drafts in `σ`. -/
structure Shape (σ α : Type) where
  /-- The name of the record in messages. -/
  name : String
  fields : List (RecordField σ)
  /-- The draft without any field. -/
  blank : σ
  /-- Whether a list of fields has to be complete. -/
  complete : Bool
  /-- The record of a draft. -/
  finish : σ → Except Cause α

namespace Shape

variable (shape : Shape σ α)

/-- The draft after the member with key `key`, from behind the key. -/
def readMember (key : List Char) (st : σ) : Reader σ := fun text =>
  match shape.fields.find? fun f => f.name.toList == key with
  | some f =>
    if f.given st then .error (.floating (.duplicateField f.name) text)
    else do
      let cs ← colon text
      f.read st cs
  | none => do
    let cs ← colon text
    let rest ← skipValue cs
    .ok (st, rest)

/-- The draft at the end of an object; the bound is the number of characters. -/
def readMembers : Nat → Bool → σ → Reader σ
  | 0, _, _, _ => .error (.here .endOfObject [])
  | fuel + 1, first, st, text => do
    match ← nextKey first text with
    | none => .ok (st, text)
    | some cs =>
      let (key, rest) ← stringBody cs
      let (st', rest') ← shape.readMember key st rest
      readMembers fuel false st' rest'

/-- The draft at the end of a list of fields, of which `i` have been read. -/
def readFields (i : Nat) (st : σ) : List (RecordField σ) → Reader σ
  | [], text => .ok (st, text)
  | f :: fs, text => do
    match ← nextElement (i = 0) text with
    | none =>
      if shape.complete then
        let wanted := s!"struct {shape.name} with {shape.fields.length} elements"
        .error (.floating (.wrongLength i wanted) (skipSpaces text))
      else .ok (st, text)
    | some cs =>
      let (st', rest) ← f.read st cs
      readFields (i + 1) st' fs rest

/-- The record of a draft that was read. -/
def conclude (r : σ × List Char) : Except Fault (α × List Char) :=
  match shape.finish r.1 with
  | .ok a => .ok (a, r.2)
  | .error cause => .error (.floating cause r.2)

/-- A record. -/
def read : Reader α := fun text =>
  match skipSpaces text with
  | [] => .error (.here .endOfValue [])
  | c :: cs =>
    if c = '[' then
      within closeList afterList
        (shape.readFields 0 shape.blank shape.fields cs >>= shape.conclude)
    else if c = '\x7b' then
      within closeObject afterObject
        (shape.readMembers (cs.length + 1) true shape.blank cs >>= shape.conclude)
    else .error (mistyped s!"struct {shape.name}" (c :: cs))

end Shape

/-- The value of a whole text: nothing but spaces may follow it. -/
def readDocument (reader : Reader α) (text : List Char) : Except Fault α := do
  let (a, rest) ← reader text
  match skipSpaces rest with
  | [] => .ok a
  | cs => .error (.next .trailingText cs)

end BoolCalc.Json
