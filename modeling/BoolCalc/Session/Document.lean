import BoolCalc.Json.Layout
import BoolCalc.Json.Record
import BoolCalc.Session

/-!
# Settings and sessions as documents

Settings and sessions are kept as JSON. Reading is the counterpart of writing and accepts more:
members in any order and unknown ones among them, lists of fields for objects, and settings or
sessions of which parts are missing, which then have their standard values. A pair of symbols is
checked on reading, so a document never brings in a pair that the symbol prompt would refuse.
-/

namespace BoolCalc

open Json (Reader Shape RecordField)

/-! ### Writing -/

namespace Symbols

/-- The members of a written pair. -/
def write (level : Nat) (s : Symbols) : List Char :=
  Json.object level
    [Json.member "true" (Json.quote [s.forTrue]), Json.member "false" (Json.quote [s.forFalse])]

end Symbols

namespace Settings

/-- Settings at a level of a document. -/
def write (level : Nat) (s : Settings) : List Char :=
  Json.object level
    [Json.member "symbols" (s.symbols.write (level + 1)),
     Json.member "history_limit" (Json.natural s.historyLimit.toNat)]

/-- The document of settings. -/
def document (s : Settings) : List Char := s.write 0

end Settings

namespace HistoryEntry

/-- An entry at a level of a document. -/
def write (level : Nat) (e : HistoryEntry) : List Char :=
  Json.object level
    [Json.member "expression" (Json.quote e.expression.toList),
     Json.member "postfix" (Json.quote e.rpn.toList),
     Json.member "result" (Json.boolean e.value),
     Json.member "symbols" (e.symbols.write (level + 1))]

end HistoryEntry

namespace Session

/-- The document of a session. -/
def document (s : Session) : List Char :=
  Json.object 0
    [Json.member "settings" (s.settings.write 1),
     Json.member "history" (Json.list 1 (s.history.map (·.write 2)))]

end Session

/-! ### Reading -/

/-- A field that fills an optional part of a draft. -/
def optionField {σ α : Type} (name : String) (reader : Reader α) (get : σ → Option α)
    (set : σ → α → σ) : RecordField σ :=
  { name := name
    given := fun st => (get st).isSome
    read := fun st text => (reader text).map fun r => (set st r.1, r.2) }

/-- The part of a draft that must be there. -/
def needed {α : Type} (name : String) : Option α → Except Json.Cause α
  | some a => .ok a
  | none => .error (.missingField name)

namespace Symbols

/-- A pair of symbols that is being read. -/
structure Draft where
  forTrue : Option Char
  forFalse : Option Char

/-- The shape of a written pair, before it is checked. -/
def shape : Shape Draft (Char × Char) where
  name := "RawSymbols"
  fields :=
    [optionField "true" Json.readCharacter Draft.forTrue fun d c => { d with forTrue := some c },
     optionField "false" Json.readCharacter Draft.forFalse fun d c => { d with forFalse := some c }]
  blank := ⟨none, none⟩
  complete := true
  finish := fun d => do
    let t ← needed "true" d.forTrue
    let f ← needed "false" d.forFalse
    .ok (t, f)

/-- A pair of symbols, checked once it is read. -/
def read : Reader Symbols := fun text => do
  let (pair, rest) ← shape.read text
  match ofChars pair.1 pair.2 with
  | .ok s => .ok (s, rest)
  | .error e => .error (.floating (.badSymbols e) rest)

end Symbols

namespace Settings

/-- Settings that are being read. -/
structure Draft where
  symbols : Option Symbols
  historyLimit : Option UInt64

/-- The shape of written settings; a missing field has its standard value. -/
def shape : Shape Draft Settings where
  name := "Settings"
  fields :=
    [optionField "symbols" Symbols.read Draft.symbols fun d s => { d with symbols := some s },
     optionField "history_limit" Json.readNatural Draft.historyLimit
       fun d n => { d with historyLimit := some n }]
  blank := ⟨none, none⟩
  complete := false
  finish := fun d =>
    .ok ⟨d.symbols.getD standard.symbols, d.historyLimit.getD standard.historyLimit⟩

/-- Settings. -/
def read : Reader Settings := shape.read

/-- The settings of a document. -/
def ofDocument (text : List Char) : Except Json.Fault Settings := Json.readDocument read text

end Settings

namespace HistoryEntry

/-- An entry that is being read. -/
structure Draft where
  expression : Option (List Char)
  rpn : Option (List Char)
  value : Option Bool
  symbols : Option Symbols

/-- The shape of a written entry. -/
def shape : Shape Draft HistoryEntry where
  name := "HistoryEntry"
  fields :=
    [optionField "expression" Json.readText Draft.expression
       fun d s => { d with expression := some s },
     optionField "postfix" Json.readText Draft.rpn fun d s => { d with rpn := some s },
     optionField "result" Json.readBoolean Draft.value fun d b => { d with value := some b },
     optionField "symbols" Symbols.read Draft.symbols fun d s => { d with symbols := some s }]
  blank := ⟨none, none, none, none⟩
  complete := true
  finish := fun d => do
    let e ← needed "expression" d.expression
    let p ← needed "postfix" d.rpn
    let v ← needed "result" d.value
    let s ← needed "symbols" d.symbols
    .ok ⟨String.ofList e, String.ofList p, v, s⟩

/-- An entry. -/
def read : Reader HistoryEntry := shape.read

end HistoryEntry

namespace Session

/-- A session that is being read. -/
structure Draft where
  settings : Option Settings
  history : Option (List HistoryEntry)

/-- The shape of a written session; a missing field has its standard value. -/
def shape : Shape Draft Session where
  name := "Session"
  fields :=
    [optionField "settings" Settings.read Draft.settings fun d s => { d with settings := some s },
     optionField "history" (Json.readList HistoryEntry.read) Draft.history
       fun d h => { d with history := some h }]
  blank := ⟨none, none⟩
  complete := false
  finish := fun d =>
    .ok ⟨d.settings.getD standard.settings, d.history.getD standard.history⟩

/-- A session. -/
def read : Reader Session := shape.read

/-- The session of a document. -/
def ofDocument (text : List Char) : Except Json.Fault Session := Json.readDocument read text

end Session

end BoolCalc
