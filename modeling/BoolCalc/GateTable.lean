import BoolCalc.Operator
import BoolCalc.Symbols

/-!
# The gate table

The five gates over two inputs, as a table of columns: a heading and what the column shows for
the inputs `a` and `b`.
-/

namespace BoolCalc.GateTable

/-- A binary gate as a column. -/
def binary (op : Operator) (a b : Bool) : Bool := (op.binary? a b).getD false

/-- The headings and contents of the columns. -/
def columns : List (String × (Bool → Bool → Bool)) :=
  [("A", fun a _ => a),
   ("B", fun _ b => b),
   ("AND", binary .and),
   ("OR", binary .or),
   ("NAND", binary .nand),
   ("XOR", binary .xor),
   ("NOT A", fun a _ => (Operator.not.unary? a).getD false),
   ("NOT B", fun _ b => (Operator.not.unary? b).getD false)]

/-- The headings. -/
def headers : List String := columns.map Prod.fst

/-- The inputs of the rows, in counting order. -/
def inputs : List (Bool × Bool) := [(false, false), (false, true), (true, false), (true, true)]

/-- The values of the four rows. -/
def rows : List (List Bool) := inputs.map fun i => columns.map fun c => c.2 i.1 i.2

/-- The rows, each value spelled with the symbols. -/
def spelled (s : Symbols) : List (List Char) := rows.map fun r => r.map s.spell

end BoolCalc.GateTable
