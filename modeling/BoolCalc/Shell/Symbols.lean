import BoolCalc.Shell.Basic

/-!
# Defining the symbols

The symbols are asked for one after the other: that for true, which has to go with the one for
false in force, then that for false. A refused character leaves the question open. The symbols in
force change only when both are accepted.
-/

namespace BoolCalc.Shell

variable (sh : Shell)

/-- Asks for the symbols. -/
def beginSymbols : Shell :=
  { sh.clearInput with mode := .trueSymbol, pending := none, status := none }

/-- The pair that the typed character makes: with the symbol for false in force, or, once that for
true is accepted, as the symbol for false. -/
def typedSymbols : Except SymbolError Symbols := do
  let c ← Symbols.readChar sh.input
  match sh.mode with
  | .trueSymbol => sh.symbols.withTrue c
  | _ => (sh.pending.getD sh.symbols).withFalse c

/-- Puts symbols in force and goes back to the menu. -/
def define (s : Symbols) : Shell :=
  { sh with
    settings := { sh.settings with symbols := s }
    pending := none
    mode := .menu
    status := some
      s!"True representation set to: {s.forTrue} | False representation set to: {s.forFalse}" }

/-- Takes the typed character as the symbol asked for, and empties the line. -/
def submitSymbol : Shell :=
  let after : Shell :=
    match sh.typedSymbols with
    | .error e => { sh with status := some s!"Invalid input: {e.message}" }
    | .ok s =>
      match sh.mode with
      | .trueSymbol => { sh with pending := some s, mode := .falseSymbol, status := none }
      | _ => sh.define s
  after.clearInput

/-- Says that new symbols could not be written to the file of settings. -/
def symbolsUnsaved (reason : String) : Shell :=
  { sh with status := some s!"Symbols changed for this session only, save failed: {reason}" }

/-- Leaves the symbols as they are and goes back to the menu. -/
def leaveSymbols : Shell :=
  { sh.clearInput with mode := .menu, pending := none }

end BoolCalc.Shell
