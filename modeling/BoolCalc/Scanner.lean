import BoolCalc.Lexeme

/-!
# Scanners

A scanner holds a text and how many of its characters are read. Each time it is asked it passes over
blanks and reads the character behind them, also one that spells no token, so a refusal does not
keep it from being asked again.
-/

namespace BoolCalc

open Text (isBlank)

/-- A token and where it was found. -/
structure Scanned where
  token : Token
  position : Nat
deriving DecidableEq, Repr

/-- A text that is being read. -/
structure Scanner where
  text : List Char
  /-- How many characters are read. -/
  position : Nat
deriving DecidableEq, Repr

namespace Scanner

/-- The scanner of a text. -/
def ofText (cs : List Char) : Scanner := ⟨cs, 0⟩

variable (s : Symbols) (sc : Scanner)

/-- What is still to be read. -/
def unread : List Char := sc.text.drop sc.position

/-- The scanner a number of characters further on. -/
def advance (n : Nat) : Scanner := { sc with position := sc.position + n }

/-- The scanner behind the blanks at which it stands. -/
def skipBlanks : Scanner := sc.advance (sc.unread.takeWhile isBlank).length

/-- What the character at which the scanner stands is to a reader. -/
def classify (c : Char) : Except Malformed (Option Scanned) :=
  match Token.ofChar? s c with
  | some t => .ok (some ⟨t, sc.position⟩)
  | none => .error (.unrecognized c sc.position)

/-- What comes next, and the scanner behind it; nothing at the end of the text. -/
def next : Except Malformed (Option Scanned) × Scanner :=
  match sc.skipBlanks.unread with
  | [] => (.ok none, sc.skipBlanks)
  | c :: _ => (sc.skipBlanks.classify s c, sc.skipBlanks.advance 1)

theorem unread_advance (n : Nat) : (sc.advance n).unread = sc.unread.drop n := by
  rw [unread, unread, advance, List.drop_drop]

theorem unread_skipBlanks : sc.skipBlanks.unread = sc.unread.dropWhile isBlank := by
  have hparts := List.takeWhile_append_dropWhile (p := isBlank) (l := sc.unread)
  calc sc.skipBlanks.unread
      = (sc.unread.takeWhile isBlank ++ sc.unread.dropWhile isBlank).drop
          (sc.unread.takeWhile isBlank).length := by rw [hparts, skipBlanks, unread_advance]
    _ = sc.unread.dropWhile isBlank := List.drop_left

/-- Unless it has come to the end, the scanner has read on. -/
theorem unread_next_lt (h : (sc.next s).1 ≠ .ok none) :
    (sc.next s).2.unread.length < sc.unread.length := by
  have hskip : sc.skipBlanks.unread.length ≤ sc.unread.length := by
    rw [unread_skipBlanks]
    exact (List.dropWhile_sublist _).length_le
  unfold next at h ⊢
  split at h
  · exact absurd rfl h
  · rename_i c cs hc
    rw [hc] at hskip
    simp only [unread_advance, hc]
    exact Nat.lt_of_succ_le hskip

/-- All that the scanner still has to tell, also behind a refusal. -/
def results (sc : Scanner) : List (Except Malformed Scanned) :=
  match _h : sc.next s with
  | (.ok none, _) => []
  | (.ok (some x), behind) => .ok x :: results behind
  | (.error e, behind) => .error e :: results behind
termination_by sc.unread.length
decreasing_by
  all_goals
    have hlt := sc.unread_next_lt s
    simp_all

/-- The tokens that are still to be read; a refusal ends the reading. -/
def tokens (sc : Scanner) : Except Malformed (List Scanned) :=
  match _h : sc.next s with
  | (.ok none, _) => .ok []
  | (.ok (some x), behind) => (tokens behind).map (x :: ·)
  | (.error e, _) => .error e
termination_by sc.unread.length
decreasing_by
  have hlt := sc.unread_next_lt s
  simp_all

theorem results_eq :
    sc.results s =
      match sc.next s with
      | (.ok none, _) => []
      | (.ok (some x), behind) => .ok x :: behind.results s
      | (.error e, behind) => .error e :: behind.results s := by
  rw [results]
  split <;> simp [*]

theorem tokens_eq :
    sc.tokens s =
      match sc.next s with
      | (.ok none, _) => .ok []
      | (.ok (some x), behind) => (behind.tokens s).map (x :: ·)
      | (.error e, _) => .error e := by
  rw [tokens]
  split <;> simp [*]

end Scanner

end BoolCalc
