import BoolCalc.Text.Blank

/-!
# Literal symbols

An expression spells its two truth values with one character each. The pair is free within
three rules: the characters differ, neither is blank, and neither is taken by the grammar. A
value of `Symbols` carries the proofs of these rules, so whoever holds a pair can scan with it.
-/

namespace BoolCalc

open Text (isBlank)

/-- The characters of the grammar, which never spell a truth value. -/
def reservedChars : List Char := ['!', '&', '|', '@', '$', '(', ')']

/-- A character that may spell a truth value. -/
def Usable (c : Char) : Prop := isBlank c = false ∧ c ∉ reservedChars

instance (c : Char) : Decidable (Usable c) := inferInstanceAs (Decidable (_ ∧ _))

/-- Why a symbol or a pair of symbols is refused. -/
inductive SymbolError where
  /-- One character was given for both truth values. -/
  | same (symbol : Char)
  /-- The character belongs to the grammar. -/
  | reserved (symbol : Char)
  /-- The character is blank. -/
  | blank
  /-- A text of another length than one was given for a symbol. -/
  | notSingle (length : Nat)
deriving DecidableEq, Repr

/-- The wording of a refusal. -/
def SymbolError.message : SymbolError → String
  | .same c => s!"'true' and 'false' cannot both be '{c}'"
  | .reserved c => s!"'{c}' is reserved for operators and parentheses"
  | .blank => "symbols cannot be whitespace"
  | .notSingle n => s!"enter exactly one character, got {n}"

/-- The characters that spell true and false. -/
structure Symbols where
  forTrue : Char
  forFalse : Char
  distinct : forTrue ≠ forFalse
  true_usable : Usable forTrue
  false_usable : Usable forFalse
deriving DecidableEq

namespace Symbols

/-- What is wrong with a character that is not usable: it is blank, or else reserved. -/
def misuse (c : Char) : SymbolError :=
  if isBlank c then .blank else .reserved c

/-- The pair of two characters; the true one is checked first, then the false one, then that
they differ. -/
def ofChars (t f : Char) : Except SymbolError Symbols :=
  if ht : Usable t then
    if hf : Usable f then
      if h : t = f then .error (.same t) else .ok ⟨t, f, h, ht, hf⟩
    else .error (misuse f)
  else .error (misuse t)

/-- `T` and `F`, the symbols in force unless others are chosen. -/
def standard : Symbols :=
  ⟨'T', 'F', by decide, by decide, by decide⟩

instance : Inhabited Symbols := ⟨standard⟩

/-- The pair with another character for true. -/
def withTrue (s : Symbols) (t : Char) : Except SymbolError Symbols := ofChars t s.forFalse

/-- The pair with another character for false. -/
def withFalse (s : Symbols) (f : Char) : Except SymbolError Symbols := ofChars s.forTrue f

/-- The truth value that a character spells, if it spells one. -/
def value? (s : Symbols) (c : Char) : Option Bool :=
  if c = s.forTrue then some true else if c = s.forFalse then some false else none

/-- The character that spells a truth value. -/
def spell (s : Symbols) (b : Bool) : Char :=
  if b then s.forTrue else s.forFalse

/-- The symbol typed at a prompt: a text of exactly one usable character. -/
def readChar : List Char → Except SymbolError Char
  | [c] => if Usable c then .ok c else .error (misuse c)
  | cs => .error (.notSingle cs.length)

theorem ofChars_self (s : Symbols) : ofChars s.forTrue s.forFalse = .ok s := by
  simp [ofChars, s.distinct, s.true_usable, s.false_usable]

theorem ofChars_eq_ok {s : Symbols} {t f : Char} :
    ofChars t f = .ok s ↔ s.forTrue = t ∧ s.forFalse = f := by
  constructor
  · intro h
    unfold ofChars at h
    split at h
    · split at h
      · split at h
        · cases h
        · cases h
          exact ⟨rfl, rfl⟩
      · cases h
    · cases h
  · rintro ⟨rfl, rfl⟩
    exact ofChars_self s

theorem readChar_eq_ok {cs : List Char} {c : Char} :
    readChar cs = .ok c ↔ cs = [c] ∧ Usable c := by
  constructor
  · intro h
    unfold readChar at h
    split at h
    · split at h
      · cases h
        exact ⟨rfl, ‹_›⟩
      · cases h
    · cases h
  · rintro ⟨rfl, hc⟩
    exact if_pos hc

theorem spell_usable (s : Symbols) (b : Bool) : Usable (s.spell b) := by
  cases b
  · exact s.false_usable
  · exact s.true_usable

@[simp] theorem value?_spell (s : Symbols) (b : Bool) : s.value? (s.spell b) = some b := by
  have := s.distinct
  cases b <;> simp [value?, spell, Ne.symm this]

theorem value?_of_reserved (s : Symbols) {c : Char} (h : c ∈ reservedChars) :
    s.value? c = none := by
  have ht : c ≠ s.forTrue := fun e => s.true_usable.2 (e ▸ h)
  have hf : c ≠ s.forFalse := fun e => s.false_usable.2 (e ▸ h)
  simp [value?, ht, hf]

theorem eq_spell_of_value? {s : Symbols} {c : Char} {b : Bool} (h : s.value? c = some b) :
    c = s.spell b := by
  unfold value? at h
  split at h
  · simp_all [spell]
  · split at h <;> simp_all [spell]

end Symbols

end BoolCalc
