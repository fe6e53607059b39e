/-!
# The help text

The text that the help shows, and which part of it is in view: as many lines as there is room
for, from the line to which it was scrolled, but never beyond the end of the text.
-/

namespace BoolCalc.Help

/-- The lines of the help. -/
def lines : List String :=
  ["BOOLTERM EXPRESSION REFERENCE",
   "",
   "=== LITERALS ===",
   "T       true  (default, redefine with 'd')",
   "F       false (default, redefine with 'd')",
   "Literals are single characters and case sensitive.",
   "",
   "=== OPERATORS (tightest first) ===",
   "!       NOT     unary, right-assoc    !T → F, !!T → T",
   "&       AND     left-assoc            T&F → F",
   "$       XOR     left-assoc            T$F → T",
   "|       OR      left-assoc            T|F → T",
   "@       NAND    left-assoc            T@T → F",
   "",
   "AND and XOR share one precedence tier, OR and NAND the tier below.",
   "Operators in the same tier group left to right: T@F|F = (T@F)|F.",
   "",
   "=== PARENTHESES ===",
   "( )     Group sub-expressions       (T|F)&F → F, T|F&F → T",
   "",
   "Whitespace is ignored anywhere in an expression.",
   "",
   "=== ERRORS ===",
   "unrecognized character          a character that is not a literal,",
   "                                operator or parenthesis",
   "operand follows operand         TF, T(F)",
   "consecutive operators           T&&F, T!F",
   "missing operand                 &T, T&, ()",
   "mismatched parentheses          (T&F, T&F)",
   "no operands or operators        empty input",
   "",
   "=== MENU ===",
   "e / Enter       Evaluate expressions (Esc returns to menu)",
   "t               Show truth table of AND, OR, NAND, XOR, NOT",
   "d               Define the characters for true and false",
   "Ctrl+S          Save session (symbols + history) as JSON",
   "Ctrl+O          Load session",
   "Ctrl+E          Export history to CSV",
   "Ctrl+T          Export truth table to CSV",
   "Ctrl+Y          Copy last result to clipboard",
   "F1 or ?         Show this help",
   "q               Quit",
   "",
   "=== WHILE EDITING ===",
   "↑ / ↓           Recall previous expressions",
   "← → Home End    Move cursor",
   "Backspace/Del   Delete characters",
   "",
   "=== HELP NAVIGATION ===",
   "↑↓ or j/k       Scroll help text up/down one line",
   "Page Up/Down    Scroll help text up/down 5 lines",
   "Home            Jump to top of help text",
   "Esc/F1/?/q      Close this help window",
   "",
   "Settings are read from boolterm.json (or the path given as the first",
   "argument). Set BOOLTERM_LOG=debug to write a log to boolterm.log."]

/-- The index of the first line in view when the help was scrolled down `scroll` lines. -/
def top (room scroll : Nat) : Nat := min scroll (lines.length - room)

/-- The lines in view. -/
def view (room scroll : Nat) : List String := (lines.drop (top room scroll)).take room

/-- The title, which tells the first line in view. -/
def title (room scroll : Nat) : String :=
  s!"boolterm Help (Line {top room scroll + 1}/{lines.length})"

end BoolCalc.Help
