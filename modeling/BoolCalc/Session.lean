import BoolCalc.Evaluation

/-!
# Sessions

What a user keeps between two runs: the settings, and with a session also the expressions
evaluated so far, each with the symbols it was written in.
-/

namespace BoolCalc

/-- The choices of a user. -/
structure Settings where
  /-- The symbols for the next evaluation. -/
  symbols : Symbols
  /-- How many evaluations are kept. -/
  historyLimit : UInt64
deriving DecidableEq

/-- The settings unless others are chosen. -/
def Settings.standard : Settings := ⟨.standard, 50⟩

/-- An evaluation that is kept. -/
structure HistoryEntry where
  expression : String
  /-- The reverse Polish sequence as text. -/
  rpn : String
  value : Bool
  /-- The symbols that the expression was written in. -/
  symbols : Symbols
deriving DecidableEq

namespace HistoryEntry

/-- The value, spelled with the symbols of the entry. -/
def symbol (e : HistoryEntry) : Char := e.symbols.spell e.value

/-- The entry that keeps an evaluation. -/
def ofEvaluation (e : Evaluation) : HistoryEntry := ⟨e.expression, e.rpn, e.value, e.symbols⟩

end HistoryEntry

/-- Settings and history, oldest entry first. -/
structure Session where
  settings : Settings
  history : List HistoryEntry
deriving DecidableEq

/-- The session without any evaluation, under the standard settings. -/
def Session.standard : Session := ⟨.standard, []⟩

end BoolCalc
