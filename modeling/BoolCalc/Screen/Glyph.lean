import BoolCalc.Screen.Canvas
import BoolCalc.Text.Cluster
import BoolCalc.Text.Columns

/-!
# Glyphs

What a row shows is made of glyphs, one for each cluster of the text. A glyph that takes several
columns shows its text in the first one and leaves the others empty; a terminal prints the text over
all of them. A glyph without width cannot have a cell: a paragraph leaves it out, and a list puts it
into the cell before it. A control character is a glyph like any other here; what a terminal makes
of it is not told.
-/

namespace BoolCalc

/-- A cluster on the screen. -/
structure Glyph where
  text : List Char
  /-- The number of columns that the text takes. -/
  width : Nat
  /-- The change that the glyph makes to the style of its cell. -/
  change : Style → Style

namespace Glyph

/-- The glyphs of a text in one style. -/
def ofText (change : Style → Style) (cs : List Char) : List Glyph :=
  (Text.clusters cs).map fun c => ⟨c, Text.columns c, change⟩

/-- The number of columns that glyphs take. -/
def total : List Glyph → Nat
  | [] => 0
  | g :: gs => g.width + total gs

/-- The glyphs at the start of a row that fit into it. -/
def fit : Nat → List Glyph → List Glyph
  | _, [] => []
  | room, g :: gs => if g.width ≤ room then g :: fit (room - g.width) gs else []

/-- The cells of a glyph; `behind` is the style of those behind the first one. -/
def strokes (behind : Style → Style) (g : Glyph) : List Stroke :=
  ⟨g.text, g.change⟩ :: List.replicate (g.width - 1) ⟨[' '], behind⟩

/-- A line cut to the width of a row; a glyph wider than the row is left out. -/
def cut (width : Nat) (gs : List Glyph) : List Glyph := fit width (gs.filter (·.width ≤ width))

/-- A row of a paragraph: glyphs without width are left out. -/
def paragraphRow (behind : Style → Style) (width : Nat) (gs : List Glyph) : List Stroke :=
  ((gs.filter (0 < ·.width)).flatMap (strokes behind)).take width

/-- The glyphs with every one without width joined to the one before it. -/
def joinBefore : List Glyph → List Glyph
  | [] => []
  | g :: gs =>
    match joinBefore gs with
    | h :: hs => if h.width = 0 then { g with text := g.text ++ h.text } :: hs else g :: h :: hs
    | [] => [g]

/-- The glyphs with a first one without width joined to the one after it. -/
def joinFirst : List Glyph → List Glyph
  | g :: h :: hs => if g.width = 0 then { h with text := g.text ++ h.text } :: hs else g :: h :: hs
  | gs => gs

/-- A row of a list: glyphs without width share a cell. -/
def listRow (width : Nat) (gs : List Glyph) : List Stroke :=
  (joinFirst (joinBefore (fit width gs))).flatMap (strokes fun _ => .plain)

/-- Glyphs that fit into a row take no more columns than it has. -/
theorem total_fit_le (room : Nat) (gs : List Glyph) : total (fit room gs) ≤ room := by
  induction gs generalizing room with
  | nil => simp [fit, total]
  | cons g gs ih =>
    by_cases h : g.width ≤ room
    · have := ih (room - g.width)
      simp only [fit, h, if_true, total]
      omega
    · simp [fit, h, total]

end Glyph

namespace Cell

/-- The cells of a row that are printed when the first ones are under a text before them. -/
def seenBehind (hidden : Nat) : List Cell → List Cell
  | [] => []
  | c :: cs =>
    match hidden with
    | 0 => c :: seenBehind (Text.columns c.text - 1) cs
    | n + 1 => seenBehind n cs

/-- The cells of a row that are printed: a text that takes several columns hides the cells under
it. -/
def seen (cells : List Cell) : List Cell := seenBehind 0 cells

end Cell

end BoolCalc
