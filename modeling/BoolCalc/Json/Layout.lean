import BoolCalc.Json.Quote

/-!
# Laying out a JSON text

Objects and lists are written over several lines, each level two spaces further in, with one
space behind a colon. An empty list stays on one line.
-/

namespace BoolCalc.Json

/-- The spaces before a line at a level. -/
def indent (level : Nat) : List Char := List.replicate (2 * level) ' '

/-- Items between brackets, each on a line of its own at the next level. -/
def block (opening closing : Char) (level : Nat) (items : List (List Char)) : List Char :=
  [opening, '\n'] ++ [',', '\n'].intercalate (items.map (indent (level + 1) ++ ·)) ++
    '\n' :: indent level ++ [closing]

/-- A member of an object. -/
def member (name : String) (value : List Char) : List Char :=
  quote name.toList ++ [':', ' '] ++ value

/-- An object with some members. -/
def object (level : Nat) (members : List (List Char)) : List Char :=
  block '\x7b' '\x7d' level members

/-- A list. -/
def list (level : Nat) (items : List (List Char)) : List Char :=
  if items.isEmpty then ['[', ']'] else block '[' ']' level items

/-- A truth value. -/
def boolean (b : Bool) : List Char :=
  if b then ['t', 'r', 'u', 'e'] else ['f', 'a', 'l', 's', 'e']

/-- A natural number. -/
def natural (n : Nat) : List Char := Nat.toDigits 10 n

end BoolCalc.Json
