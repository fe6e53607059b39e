import BoolCalc.Shell.Keys

/-!
# Keys as a terminal sends them

A terminal in raw mode sends characters in UTF-8, control letters as the codes below the space,
and the other keys as sequences that begin with an escape. Such a sequence is told from the
escape key by the byte after it, so an escape takes effect together with the next key.
-/

namespace BoolCalc.Terminal

/-- A key without the control key. -/
def bare (k : Key) : Press := ⟨k, false⟩

/-- The key of a sequence that ends with a letter. -/
def letterKey (b : UInt8) : Key :=
  match b.toNat with
  | 65 => .up
  | 66 => .down
  | 67 => .right
  | 68 => .left
  | 70 => .toEnd
  | 72 => .home
  | 80 => .function 1
  | _ => .other

/-- The key of a sequence that ends with a tilde, by its number. -/
def numberKey (n : Nat) : Key :=
  match n with
  | 1 | 7 => .home
  | 3 => .delete
  | 4 | 8 => .toEnd
  | 5 => .pageUp
  | 6 => .pageDown
  | 11 => .function 1
  | _ => .other

/-- The key of a code below the space, or of the code behind the tilde. -/
def codeKey (b : UInt8) : Press :=
  match b.toNat with
  | 8 | 127 => bare .backspace
  | 9 => bare .other
  | 10 | 13 => bare .enter
  | n => if 1 ≤ n && n ≤ 26 then ⟨.char (Char.ofNat (n + 96)), true⟩ else bare .other

/-- The number of bytes of a character, by the first one. -/
def charLength (b : UInt8) : Nat :=
  if b < 0x80 then 1 else if b < 0xE0 then 2 else if b < 0xF0 then 3 else 4

/-- The key of the bytes of a character. -/
def charKey (bytes : List UInt8) : Press :=
  match (String.fromUTF8? ⟨bytes.toArray⟩).map String.toList with
  | some [c] => bare (.char c)
  | _ => bare .other

/-- The key of a sequence, from behind its bracket; `n` is the number read so far. -/
def sequenceKey (n : Nat) : List UInt8 → Option (Press × List UInt8)
  | [] => none
  | b :: rest =>
    if 48 ≤ b && b ≤ 57 then sequenceKey (n * 10 + (b.toNat - 48)) rest
    else if b = 126 then some (bare (numberKey n), rest)
    else if b = 59 then sequenceKey 0 rest
    else some (bare (letterKey b), rest)

/-- The first key of the bytes and what follows it; `none` while the key is incomplete. -/
def next? : List UInt8 → Option (Press × List UInt8)
  | [] => none
  | b :: rest =>
    if b = 27 then
      match rest with
      | [] => none
      | c :: more =>
        if c = 91 || c = 79 then sequenceKey 0 more else some (bare .escape, rest)
    else if b < 32 || b = 127 then some (codeKey b, rest)
    else
      let n := charLength b
      if (b :: rest).length < n then none
      else some (charKey ((b :: rest).take n), (b :: rest).drop n)

end BoolCalc.Terminal
