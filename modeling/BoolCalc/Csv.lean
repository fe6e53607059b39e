/-!
# Comma-separated records

Fields are joined by commas and every record ends with a line feed. A field that holds a comma, a
quote or a line break stands in quotes, with each quote inside written twice; no other field does.
-/

namespace BoolCalc.Csv

/-- A record: the texts of its fields. -/
abbrev Record := List (List Char)

/-- The characters that force a field into quotes. -/
def isSpecial (c : Char) : Bool := c == ',' || c == '"' || c == '\n' || c == '\r'

/-- A text with each quote written twice. -/
def double (cs : List Char) : List Char :=
  cs.flatMap fun c => if c = '"' then ['"', '"'] else [c]

/-- A field as written. -/
def field (cs : List Char) : List Char :=
  if cs.any isSpecial then '"' :: double cs ++ ['"'] else cs

/-- A record as written. -/
def record (fs : Record) : List Char :=
  [','].intercalate (fs.map field) ++ ['\n']

/-- A document as written: its records one after the other. -/
def document (rs : List Record) : List Char := rs.flatMap record

end BoolCalc.Csv
