import BoolCalc.Screen.View

/-!
# Painting a screen on a terminal

The cells of a screen as text for a terminal: every row is put in its place, every cell follows
the sequence that selects its style, and the cursor is put where the screen has it, or hidden.
-/

namespace BoolCalc.Terminal

/-- A control sequence. -/
def control (body : String) : String := "\x1b[" ++ body

/-- The number of a colour among inks; that of a paper is ten more. -/
def colourCode : Colour → Nat
  | .plain => 39
  | .cyan => 36
  | .green => 32
  | .darkGray => 90
  | .red => 31
  | .white => 97
  | .blue => 34
  | .yellow => 33
  | .magenta => 35

/-- The sequence that selects a style. -/
def select (s : Style) : String :=
  let weight := if s.bold then 1 else 22
  control s!"{weight};{colourCode s.ink};{colourCode s.paper + 10}m"

/-- A row of cells, each in its style. -/
def paintRow (cells : List Cell) : String :=
  String.join ((Cell.seen cells).map fun c => select c.style ++ String.ofList c.text)

/-- The sequence that puts the cursor into a cell. -/
def goTo (x y : Nat) : String := control s!"{y + 1};{x + 1}H"

/-- The text that shows a screen. -/
def paint (s : Screen) : String :=
  let body := String.join (s.rows.zipIdx.map fun r => goTo 0 r.2 ++ paintRow r.1)
  let cursor :=
    match s.cursor with
    | some (x, y) => goTo x y ++ control "?25h"
    | none => control "?25l"
  control "?25l" ++ body ++ cursor

/-- The text that leaves the terminal empty and plain. -/
def leave : String := select .plain ++ control "2J" ++ goTo 0 0 ++ control "?25h"

end BoolCalc.Terminal
