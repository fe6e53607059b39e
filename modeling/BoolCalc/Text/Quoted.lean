import BoolCalc.Text.Unprintable

/-!
# Quoted text in messages

A message that cites a text puts it in double quotes and writes what would not be seen as it is:
quotes and backslashes behind a backslash, the usual controls by their letters, and any other
character without a shape of its own by its code point in braces.
-/

namespace BoolCalc.Text

/-- A code point in lower-case hexadecimal digits. -/
def hex (n : Nat) : List Char := Nat.toDigits 16 n

/-- A character as it stands between quotes. -/
def cite (c : Char) : List Char :=
  match c with
  | '"' => ['\\', '"']
  | '\\' => ['\\', '\\']
  | '\n' => ['\\', 'n']
  | '\r' => ['\\', 'r']
  | '\t' => ['\\', 't']
  | '\x00' => ['\\', '0']
  | c =>
    if isUnprintable c then ['\\', 'u', '\x7b'] ++ hex c.toNat ++ ['\x7d'] else [c]

/-- A text in quotes. -/
def quoted (cs : List Char) : List Char := '"' :: cs.flatMap cite ++ ['"']

end BoolCalc.Text
