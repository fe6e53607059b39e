import BoolCalc.Screen.Canvas
import BoolCalc.Screen.Help
import BoolCalc.Screen.Wrap
import BoolCalc.Shell.Naming

/-!
# What the shell looks like

The screen has five parts from top to bottom: a heading, the line that is typed, the last result,
the history with the newest entry first, and the status. The gate table and the help lie over
them. A cursor is shown where a line is typed, and stays inside its box when the line is longer.
-/

namespace BoolCalc

/-- A drawn screen. -/
structure Screen where
  width : Nat
  height : Nat
  canvas : Canvas
  /-- Column and row of the cursor, if it is shown. -/
  cursor : Option (Nat × Nat)

namespace Screen

/-! ### The parts of the screen -/

variable (width height : Nat)

def headingArea : Area := ⟨0, 0, width, 1⟩

def inputArea : Area := ⟨0, 1, width, 3⟩

def resultArea : Area := ⟨0, 4, width, 4⟩

def historyArea : Area := ⟨0, 8, width, height - 11⟩

def statusArea : Area := ⟨0, height - 3, width, 3⟩

/-- Four fifths of a length, computed in sixteen bits. -/
def fourFifths (n : Nat) : Nat := n * 4 % 65536 / 5

/-- The area of the gate table and of the help. -/
def popupArea : Area := ⟨width / 10, height / 10, fourFifths width, fourFifths height⟩

/-- The column of a cursor behind `n` characters in a box, at most its last one. -/
def cursorColumn (a : Area) (n : Nat) : Nat := a.x + 1 + min n (a.width - 3)

/-! ### What the parts say -/

variable (sh : Shell)

/-- The heading. -/
def headingText : String :=
  s!"boolterm - Boolean Expression Evaluator | true: {sh.symbols.forTrue} | false: " ++
    String.singleton sh.symbols.forFalse

/-- Whether the upper line is typed, and what it is asked for. -/
def inputTitle : Option String :=
  match sh.mode with
  | .expression => some "Expression"
  | .trueSymbol => some "Character for 'true'"
  | .falseSymbol => some "Character for 'false'"
  | _ => none

/-- The lines of the result: why the last expression was rejected, or its value and reverse Polish
form, or else a reminder of the operators. -/
def resultLines : List (List Glyph) :=
  match sh.lastError, sh.lastEvaluation, sh.resultText with
  | some reason, _, _ => [Glyph.ofText (Style.inked .red) reason.toList]
  | none, some e, some text =>
    [Glyph.ofText id "Result:  ".toList ++ Glyph.ofText Style.emboldened text.toList,
     Glyph.ofText id ("Postfix: " ++ e.rpn).toList]
  | none, _, _ =>
    [Glyph.ofText (Style.inked .darkGray)
      (s!"Operators: ! NOT  & AND  $ XOR  | OR  @ NAND   Literals: {sh.symbols.forTrue} ".toList ++
        [sh.symbols.forFalse])]

/-- The row of an entry in the history. -/
def historyText (e : HistoryEntry) : List Char :=
  Text.trim e.expression.toList ++ " = ".toList ++ [e.symbol] ++ "    [".toList ++
    e.rpn.toList ++ [']']

/-- What a prompt for a name says before the name. -/
def namingPrompt : Purpose → String
  | .saveSession => "Save session as: "
  | .loadSession => "Load session: "
  | .exportHistory => "Export history CSV as: "
  | .exportGates => "Export truth table CSV as: "

/-- What a prompt for a name says behind the name. -/
def namingHint : Purpose → String
  | .saveSession => " (Enter to save, Esc to cancel)"
  | .loadSession => " (Enter to load, Esc to cancel)"
  | .exportHistory | .exportGates => " (Enter to export, Esc to cancel)"

/-- The status. -/
def statusText : String :=
  match sh.mode with
  | .menu =>
    sh.status.getD
      ("e/Enter: evaluate | t: truth table | d: define true/false | Ctrl+S: save | " ++
        "Ctrl+O: load | F1/?: help | q: quit")
  | .expression => sh.status.getD "Enter: evaluate | ↑↓: history | Esc: back to menu"
  | .trueSymbol | .falseSymbol =>
    sh.status.getD "Type a single character (Enter to confirm, Esc to cancel)"
  | .gates => "Ctrl+T: export CSV | Esc/t/q: close"
  | .help => "↑↓/jk: scroll | PgUp/PgDn: fast scroll | Home: top | Esc/q: close help"
  | .naming purpose =>
    namingPrompt purpose ++ String.ofList sh.nameInput ++ namingHint purpose

/-- The colour of the status. -/
def statusColour : Mode → Colour
  | .menu => .plain
  | .expression => .green
  | .trueSymbol | .falseSymbol => .magenta
  | .gates | .help => .cyan
  | .naming .saveSession | .naming .loadSession => .yellow
  | .naming .exportHistory | .naming .exportGates => .magenta

/-! ### Drawing -/

/-- Lines in an area, cut at its edge. -/
def paragraph (a : Area) (lines : List (List Glyph)) : Canvas :=
  Canvas.rowsIn a (lines.map fun line => Glyph.paragraphRow id a.width (Glyph.cut a.width line))

/-- Lines in an area that go on in the next row. -/
def wrapped (a : Area) (lines : List (List Glyph)) : Canvas :=
  Canvas.rowsIn a ((lines.flatMap (Wrap.rows a.width)).map (Glyph.paragraphRow id a.width))

/-- The heading. -/
def drawHeading : Canvas :=
  let a := headingArea width
  .paint a (Style.inked .cyan) :: paragraph a [Glyph.ofText id (headingText sh).toList]

/-- The upper line. -/
def drawInput : Canvas :=
  let a := inputArea width
  let (title, text, colour) : String × List Char × Colour :=
    match inputTitle sh with
    | some title => (title, sh.input, .green)
    | none => ("Expression", [], .darkGray)
  [.paint a (Style.inked colour), .box a title.toList] ++ paragraph a.inner [Glyph.ofText id text]

/-- The result. -/
def drawResult : Canvas :=
  let a := resultArea width
  .box a "Result".toList :: wrapped a.inner (resultLines sh)

/-- The entries of the history in view, newest first. -/
def entriesInView : List HistoryEntry :=
  sh.history.reverse.take (historyArea width height).inner.height

/-- The history; the recalled entry stands out. -/
def drawHistory : Canvas :=
  let a := historyArea width height
  let entries := entriesInView width height sh
  let mark : Canvas :=
    match sh.recalled with
    | none => []
    | some i =>
      if i < entries.length then
        [.paint ⟨a.inner.x, a.inner.y + i, a.inner.width, 1⟩
          fun s => { s with ink := .white, paper := .blue }]
      else []
  .box a s!"History ({sh.history.length})".toList :: mark ++
    Canvas.rowsIn a.inner
      (entries.map fun e => Glyph.listRow a.inner.width (Glyph.ofText id (historyText e)))

/-- The status. -/
def drawStatus : Canvas :=
  let a := statusArea width height
  [.paint a (Style.inked (statusColour sh.mode)), .box a "Status".toList] ++
    paragraph a.inner [Glyph.ofText id (statusText sh).toList]

/-- The widths of the columns of the gate table. -/
def gateWidths : List Nat := [3, 3, 6, 6, 6, 6, 7, 7]

/-- A row of the gate table, one cell between two columns. -/
def gateRow (change : Style → Style) (cells : List (List Char)) : List Stroke :=
  let column (cell : List Char × Nat) : List Stroke :=
    let shown := Glyph.paragraphRow (fun _ => .plain) cell.2
      (Glyph.cut cell.2 (Glyph.ofText change cell.1))
    shown ++ List.replicate (cell.2 - shown.length) ⟨[' '], change⟩
  [(⟨[' '], id⟩ : Stroke)].intercalate ((cells.zip gateWidths).map column)

/-- The gate table over the screen. -/
def drawGates : Canvas :=
  let a := popupArea width height
  [.clear a, .paint a (Style.inked .cyan), .box a "Truth Table".toList] ++
    Canvas.rowsIn a.inner
      (gateRow (Style.inked .yellow) (GateTable.headers.map String.toList) ::
        (GateTable.spelled sh.symbols).map fun r => gateRow id (r.map ([·])))

/-- The help over the screen. -/
def drawHelp : Canvas :=
  let a := popupArea width height
  let room := a.inner.height
  [.clear a, .paint a (Style.inked .cyan), .box a (Help.title room sh.helpScroll).toList,
    .paint a.inner (Style.inked .white)] ++
    paragraph a.inner ((Help.view room sh.helpScroll).map fun line => Glyph.ofText id line.toList)

/-- Where the cursor is shown. -/
def cursorOf : Option (Nat × Nat) :=
  match sh.mode with
  | .expression | .trueSymbol | .falseSymbol =>
    let a := inputArea width
    some (cursorColumn a (min sh.cursor sh.input.length), a.y + 1)
  | .naming purpose =>
    let a := statusArea width height
    let n := (namingPrompt purpose).length + min sh.cursor sh.nameInput.length
    some (cursorColumn a n, a.y + 1)
  | .menu | .gates | .help => none

/-- What lies over the five parts. -/
def drawPopup : Canvas :=
  match sh.mode with
  | .gates => drawGates width height sh
  | .help => drawHelp width height sh
  | _ => []

/-- The screen of a shell. -/
def ofShell : Screen where
  width := width
  height := height
  canvas :=
    drawHeading width sh ++ drawInput width sh ++ drawResult width sh ++
      drawHistory width height sh ++ drawStatus width height sh ++ drawPopup width height sh
  cursor := cursorOf width height sh

/-- The rows of cells of a screen. -/
def rows (s : Screen) : List (List Cell) := s.canvas.rows s.width s.height

end Screen

end BoolCalc
