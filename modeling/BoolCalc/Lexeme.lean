import BoolCalc.Rejection
import BoolCalc.Token

/-!
# Lexemes

Scanning an expression: each character that is not blank becomes one lexeme, which keeps its
place in the text (counted in characters) and the token that the symbols give it, if any. No
character is lost and scanning never stops, so a reader of lexemes decides what a character
without a token means.
-/

namespace BoolCalc

open Text (isBlank)

/-- A character of an expression that is not blank, with its place and its token. -/
structure Lexeme where
  position : Nat
  char : Char
  token? : Option Token
deriving DecidableEq, Repr

namespace Lexeme

variable (s : Symbols)

/-- The lexemes of a text whose first character stands at `position`. -/
def scanFrom (position : Nat) : List Char → List Lexeme
  | [] => []
  | c :: cs =>
    if isBlank c then scanFrom (position + 1) cs
    else ⟨position, c, Token.ofChar? s c⟩ :: scanFrom (position + 1) cs

/-- The lexemes of an expression. -/
def scan (cs : List Char) : List Lexeme := scanFrom s 0 cs

/-- The token of a lexeme; a character without one is refused. -/
def read (x : Lexeme) : Except Malformed Token :=
  match x.token? with
  | some t => .ok t
  | none => .error (.unrecognized x.char x.position)

/-- The tokens of a sequence of lexemes; the first character without one is refused. -/
def tokens (xs : List Lexeme) : Except Malformed (List Token) := xs.mapM read

theorem scanFrom_append (position : Nat) (cs ds : List Char) :
    scanFrom s position (cs ++ ds) =
      scanFrom s position cs ++ scanFrom s (position + cs.length) ds := by
  induction cs generalizing position with
  | nil => simp [scanFrom]
  | cons c cs ih =>
    have hn : position + 1 + cs.length = position + (cs.length + 1) := by omega
    by_cases h : isBlank c <;> simp [scanFrom, h, ih, hn]

/-- Scanning classifies the characters that are not blank, one by one. -/
theorem map_token?_scanFrom (position : Nat) (cs : List Char) :
    (scanFrom s position cs).map (·.token?) =
      (cs.filter fun c => !isBlank c).map (Token.ofChar? s) := by
  induction cs generalizing position with
  | nil => rfl
  | cons c cs ih => by_cases h : isBlank c <;> simp [scanFrom, h, ih]

theorem tokens_eq_ok_iff {xs : List Lexeme} {ts : List Token} :
    tokens xs = .ok ts ↔ xs.map (·.token?) = ts.map some := by
  induction xs generalizing ts with
  | nil => cases ts <;> simp [tokens, pure, Except.pure]
  | cons x xs ih =>
    have hcons : tokens (x :: xs) =
        x.read.bind fun t => (tokens xs).bind fun us => .ok (t :: us) := by
      rw [tokens, List.mapM_cons]
      rfl
    rw [hcons, List.map_cons, read]
    cases x.token? with
    | none => cases ts <;> simp [Except.bind]
    | some t => cases ts <;> cases hxs : tokens xs <;> simp [Except.bind, ← ih, hxs, and_comm]

end Lexeme

end BoolCalc
