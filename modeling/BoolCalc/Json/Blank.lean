import BoolCalc.Json.Fault

/-!
# Blanks and words between values

The four characters that may stand between the parts of a JSON text, and the words for null and
the truth values.
-/

namespace BoolCalc.Json

/-- The characters that may stand between the parts of a text. -/
def isSpace (c : Char) : Bool := c == ' ' || c == '\n' || c == '\t' || c == '\r'

/-- The text from its first character that is no space. -/
def skipSpaces (cs : List Char) : List Char := cs.dropWhile isSpace

/-- The text behind a word. -/
def word : List Char → List Char → Except Fault (List Char)
  | [], cs => .ok cs
  | _ :: _, [] => .error (.here .endOfValue [])
  | w :: ws, c :: cs => if c = w then word ws cs else .error (.next .noWord (c :: cs))

theorem word_append (ws cs : List Char) : word ws (ws ++ cs) = .ok cs := by
  induction ws with
  | nil => rfl
  | cons w ws ih => simpa [word] using ih

end BoolCalc.Json
