/-!
# Canvases

A canvas is a list of layers, each of which covers a part of the ones before it: painting changes
the style of an area, clearing empties it, a box draws a border around it, and a row puts text
into the cells from one column on. A cell shows what the layers make of it, one after the other.
-/

namespace BoolCalc

/-- The colours in use; `plain` is the colour that the terminal has anyway. -/
inductive Colour where
  | plain
  | cyan
  | green
  | darkGray
  | red
  | white
  | blue
  | yellow
  | magenta
deriving DecidableEq, Repr

/-- How a character is shown. -/
structure Style where
  ink : Colour
  paper : Colour
  bold : Bool
deriving DecidableEq, Repr

namespace Style

/-- No colours. -/
def plain : Style := ⟨.plain, .plain, false⟩

/-- The style in another ink. -/
def inked (c : Colour) (s : Style) : Style := { s with ink := c }

/-- The style in bold. -/
def emboldened (s : Style) : Style := { s with bold := true }

end Style

/-- A cell of the grid, which shows one character and what joins it. -/
structure Cell where
  text : List Char
  style : Style
deriving DecidableEq, Repr

/-- An empty cell. -/
def Cell.blank : Cell := ⟨[' '], .plain⟩

/-- A rectangle of cells. -/
structure Area where
  x : Nat
  y : Nat
  width : Nat
  height : Nat
deriving DecidableEq, Repr

namespace Area

/-- Whether a cell lies in an area. -/
def contains (a : Area) (x y : Nat) : Bool :=
  a.x ≤ x && x < a.x + a.width && a.y ≤ y && y < a.y + a.height

/-- What a border leaves of an area. -/
def inner (a : Area) : Area := ⟨a.x + 1, a.y + 1, a.width - 2, a.height - 2⟩

/-- The character of a border at a cell of its area; `none` inside. -/
def borderChar (a : Area) (title : List Char) (x y : Nat) : Option Char :=
  let first := x = a.x
  let last := x + 1 = a.x + a.width
  if y = a.y then
    if first then some '┌'
    else if last then some '┐'
    else some (title[x - a.x - 1]?.getD '─')
  else if y + 1 = a.y + a.height then
    if first then some '└' else if last then some '┘' else some '─'
  else if first || last then some '│'
  else none

end Area

/-- The text of one cell with the change that it makes to the style. -/
structure Stroke where
  text : List Char
  change : Style → Style

/-- One step of a drawing. -/
inductive Layer where
  /-- Changes the style of an area. -/
  | paint (a : Area) (change : Style → Style)
  /-- Empties an area. -/
  | clear (a : Area)
  /-- Draws a border around an area, with a title over its upper edge. -/
  | box (a : Area) (title : List Char)
  /-- Puts strokes into a row, one into each cell from the column `x` on. -/
  | row (x y : Nat) (strokes : List Stroke)

/-- What a layer makes of a cell. -/
def Layer.apply (l : Layer) (x y : Nat) (old : Cell) : Cell :=
  match l with
  | .paint a change => if a.contains x y then { old with style := change old.style } else old
  | .clear a => if a.contains x y then .blank else old
  | .box a title =>
    if a.contains x y then
      match a.borderChar title x y with
      | some char => { old with text := [char] }
      | none => old
    else old
  | .row x₀ y₀ strokes =>
    if y = y₀ && x₀ ≤ x then
      match strokes[x - x₀]? with
      | some s => ⟨s.text, s.change old.style⟩
      | none => old
    else old

/-- Layers, the lowest one first. -/
abbrev Canvas := List Layer

namespace Canvas

/-- What a canvas shows in a column of a row, both from zero. -/
def cell (c : Canvas) (x y : Nat) : Cell := c.foldl (fun old l => l.apply x y old) .blank

/-- Rows in an area, as many as it has room for. -/
def rowsIn (a : Area) (rows : List (List Stroke)) : Canvas :=
  ((rows.take a.height).zipIdx).map fun r => .row a.x (a.y + r.2) r.1

/-- The cells of the first `height` rows, as far as the column `width`. -/
def rows (width height : Nat) (c : Canvas) : List (List Cell) :=
  (List.range height).map fun y => (List.range width).map fun x => c.cell x y

@[simp] theorem cell_nil (x y : Nat) : cell [] x y = .blank := rfl

theorem cell_append (c d : Canvas) (x y : Nat) :
    cell (c ++ d) x y = d.foldl (fun old l => l.apply x y old) (c.cell x y) := by
  simp [cell]

end Canvas

end BoolCalc
