import BoolCalc.Screen.Glyph
import BoolCalc.Text.Blank

/-!
# Wrapping lines

A line that is too long goes on in the next row. Rows break between words, and the blanks at a
break are dropped, as are those at the start of a line; a word longer than a row is cut.
-/

namespace BoolCalc.Wrap

/-- Whether a row may break at a glyph: at every blank but the one that does not break, and at the
space without width. -/
def isBreak (g : Glyph) : Bool :=
  g.text == ['\u200b'] || (g.text.all Text.isBlank && g.text != ['\u00a0'])

/-- The state between two glyphs. -/
structure State where
  /-- The finished rows, last one first. -/
  done : List (List Glyph)
  /-- The row that is being filled. -/
  row : List Glyph
  /-- The blanks behind it. -/
  blanks : List Glyph
  /-- The word behind these. -/
  word : List Glyph
  /-- Whether the glyph before was part of a word. -/
  inWord : Bool

/-- The state before a line. -/
def start : State := ⟨[], [], [], [], false⟩

/-- The row together with the word, and with the blanks between them unless the row is empty. -/
def State.joined (st : State) : List Glyph :=
  if st.row.isEmpty then st.word else st.row ++ st.blanks ++ st.word

/-- The state in which the word has joined the row. -/
def State.settle (st : State) : State :=
  { st with row := st.joined, blanks := [], word := [] }

/-- The state with the glyph taken up, as a blank or into the word. -/
def State.add (st : State) (g : Glyph) : State :=
  if isBreak g then { st with blanks := st.blanks ++ [g], inWord := false }
  else { st with word := st.word ++ [g], inWord := true }

/-- The glyphs behind those that fit into the rest of a row. -/
def dropFitting (room : Nat) : List Glyph → List Glyph
  | [] => []
  | g :: gs => if g.width ≤ room then dropFitting (room - g.width) gs else g :: gs

/-- The state after one more glyph of a line in rows of some width. -/
def step (width : Nat) (st : State) (g : Glyph) : State :=
  if width < g.width then st
  else
    let ends := st.inWord && isBreak g
    let crowded := st.row.isEmpty &&
      (width < Glyph.total st.word + g.width || width < Glyph.total st.blanks + g.width)
    let st := if ends || crowded then st.settle else st
    let filled := Glyph.total st.row
    let full := width ≤ filled
    let overflows := 0 < g.width && width ≤ filled + Glyph.total st.blanks + Glyph.total st.word
    if full || overflows then
      let left := dropFitting (width - filled) st.blanks
      let next := { st with done := st.row :: st.done, row := [], blanks := left }
      if isBreak g && left.isEmpty then next else next.add g
    else st.add g

/-- The rows of a line, at least one. -/
def rows (width : Nat) (line : List Glyph) : List (List Glyph) :=
  let st := line.foldl (step width) start
  let onlyBlanks := st.row.isEmpty && st.word.isEmpty && !st.blanks.isEmpty
  let final := st.joined
  let all := st.done.reverse ++ (if onlyBlanks then [[]] else []) ++
    (if final.isEmpty then [] else [final])
  if all.isEmpty then [[]] else all

end BoolCalc.Wrap
