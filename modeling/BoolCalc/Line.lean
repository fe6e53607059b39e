/-!
# Line editing

A line of text with a cursor. The cursor stands before the character with its index, or behind
the last one; editing keeps it there. A line whose text was exchanged may have its cursor further
off: then a character is added at the end, and there is nothing to delete before the cursor.
-/

namespace BoolCalc

/-- A text that is being edited. -/
structure Line where
  chars : List Char
  cursor : Nat
deriving DecidableEq, Repr

namespace Line

/-- The line with a character before the cursor. -/
def insert (l : Line) (c : Char) : Line :=
  ⟨l.chars.take l.cursor ++ c :: l.chars.drop l.cursor, l.cursor + 1⟩

/-- The line without the character before the cursor; `none` if the cursor is not at the start
and there is no such character. -/
def deleteBefore? (l : Line) : Option Line :=
  match l.cursor with
  | 0 => some l
  | n + 1 => if n < l.chars.length then some ⟨l.chars.eraseIdx n, n⟩ else none

/-- The line without the character at the cursor, if there is one. -/
def deleteAt (l : Line) : Line := { l with chars := l.chars.eraseIdx l.cursor }

/-- The cursor one character to the left. -/
def left (l : Line) : Line := { l with cursor := l.cursor - 1 }

/-- The cursor one character to the right, if there is one. -/
def right (l : Line) : Line :=
  if l.cursor < l.chars.length then { l with cursor := l.cursor + 1 } else l

/-- The cursor before the first character. -/
def home (l : Line) : Line := { l with cursor := 0 }

/-- The cursor behind the last character. -/
def toEnd (l : Line) : Line := { l with cursor := l.chars.length }

end Line

end BoolCalc
