import BoolCalc.Operator
import BoolCalc.Symbols

/-!
# Tokens

Every token of an expression is one character: a literal, an operator or a parenthesis. Under
given symbols a token has one spelling, and `Token.ofChar?` reads it back.
-/

namespace BoolCalc

/-- The units of an expression. -/
inductive Token where
  | literal (value : Bool)
  | operator (op : Operator)
  | opening
  | closing
deriving DecidableEq, Repr

namespace Token

variable (s : Symbols)

/-- The character that spells a token. -/
def spell : Token → Char
  | .literal b => s.spell b
  | .operator op => op.symbol
  | .opening => '('
  | .closing => ')'

/-- The parenthesis that a character is. -/
def paren? (c : Char) : Option Token :=
  if c = '(' then some .opening else if c = ')' then some .closing else none

/-- The token that a character spells: a literal, else an operator, else a parenthesis. -/
def ofChar? (c : Char) : Option Token :=
  (s.value? c).map literal <|> (Operator.ofChar? c).map operator <|> paren? c

@[simp] theorem ofChar?_spell (t : Token) : ofChar? s (t.spell s) = some t := by
  cases t with
  | literal b => simp [ofChar?, spell]
  | operator op =>
    have h : op.symbol ∈ reservedChars := by cases op <;> decide
    simp [ofChar?, spell, s.value?_of_reserved h]
  | opening =>
    have h : '(' ∈ reservedChars := by decide
    simp only [ofChar?, spell, s.value?_of_reserved h]
    rfl
  | closing =>
    have h : ')' ∈ reservedChars := by decide
    simp only [ofChar?, spell, s.value?_of_reserved h]
    rfl

@[simp] theorem isBlank_spell (t : Token) : Text.isBlank (t.spell s) = false := by
  cases t with
  | literal b => exact (s.spell_usable b).1
  | operator op => cases op <;> rfl
  | opening => rfl
  | closing => rfl

theorem eq_spell_of_paren? {c : Char} {t : Token} (h : paren? c = some t) : c = t.spell s := by
  unfold paren? at h
  split at h
  · cases h
    assumption
  · split at h
    · cases h
      assumption
    · cases h

theorem eq_spell_of_ofChar? {c : Char} {t : Token} (h : ofChar? s c = some t) :
    c = t.spell s := by
  simp only [ofChar?, Option.orElse_eq_orElse, Option.orElse_eq_or, Option.or_eq_some_iff,
    Option.map_eq_some_iff] at h
  rcases h with ⟨b, hb, rfl⟩ | ⟨-, ⟨op, hop, rfl⟩ | ⟨-, hp⟩⟩
  · exact Symbols.eq_spell_of_value? hb
  · exact Operator.eq_symbol_of_ofChar? hop
  · exact eq_spell_of_paren? s hp

end Token

end BoolCalc
