import BoolCalc.Json.Fault

/-!
# Strings of a JSON text

A string is written between double quotes; a quote, a backslash and the controls below the space
are escaped, and nothing else is. A reader accepts every escape of the format, pairs of surrogate
escapes for the characters beyond the sixteen-bit range included.
-/

namespace BoolCalc.Json

/-- One of the sixteen digits of a hexadecimal numeral, as written. -/
def hexDigit (n : Nat) : Char := Nat.digitChar n

/-- A character as it stands in a written string. -/
def escape (c : Char) : List Char :=
  if c = '"' then ['\\', '"']
  else if c = '\\' then ['\\', '\\']
  else if c = '\x08' then ['\\', 'b']
  else if c = '\t' then ['\\', 't']
  else if c = '\n' then ['\\', 'n']
  else if c = '\x0c' then ['\\', 'f']
  else if c = '\r' then ['\\', 'r']
  else if c.toNat < 32 then
    ['\\', 'u', '0', '0', hexDigit (c.toNat / 16), hexDigit (c.toNat % 16)]
  else [c]

/-- A written string. -/
def quote (cs : List Char) : List Char := '"' :: cs.flatMap escape ++ ['"']

/-- The character that a one-letter escape stands for. -/
def unescape? (c : Char) : Option Char :=
  if c = '"' then some '"'
  else if c = '\\' then some '\\'
  else if c = '/' then some '/'
  else if c = 'b' then some '\x08'
  else if c = 'f' then some '\x0c'
  else if c = 'n' then some '\n'
  else if c = 'r' then some '\r'
  else if c = 't' then some '\t'
  else none

/-- The value of a hexadecimal digit of either case. -/
def hexValue? (c : Char) : Option Nat :=
  if '0' ≤ c ∧ c ≤ '9' then some (c.toNat - 48)
  else if 'a' ≤ c ∧ c ≤ 'f' then some (c.toNat - 87)
  else if 'A' ≤ c ∧ c ≤ 'F' then some (c.toNat - 55)
  else none

/-- The code unit that four hexadecimal digits name. -/
def codeUnit? (a b c d : Char) : Option Nat := do
  return ((← hexValue? a) * 16 + (← hexValue? b)) * 256 + ((← hexValue? c) * 16 + (← hexValue? d))

/-- The first half of a pair of surrogates. -/
def isHighSurrogate (n : Nat) : Bool := 0xD800 ≤ n && n ≤ 0xDBFF

/-- The second half of a pair of surrogates. -/
def isLowSurrogate (n : Nat) : Bool := 0xDC00 ≤ n && n ≤ 0xDFFF

/-- The character that a pair of surrogates names. -/
def pairChar (high low : Nat) : Char :=
  Char.ofNat ((high - 0xD800) * 0x400 + (low - 0xDC00) + 0x10000)

/-- The fault of an escape by number that is not followed by four digits: the text ends within
the next four bytes, or the digits are none. -/
def hexFault (rest : List Char) : Fault :=
  if (Fault.bytes rest).length < 4 then .here .endOfString []
  else ⟨.badEscape, rest, 4, true⟩

/-- What remains of a string behind its opening quote: its characters, and the text behind the
closing quote. -/
def stringBody : Reader (List Char)
  | [] => .error (.here .endOfString [])
  | c :: cs =>
    if c = '"' then .ok ([], cs)
    else if c = '\\' then
      match cs with
      | [] => .error (.here .endOfString [])
      | e :: es =>
        match unescape? e with
        | some x => (stringBody es).map fun r => (x :: r.1, r.2)
        | none =>
          if e = 'u' then
            match es with
            | h₁ :: h₂ :: h₃ :: h₄ :: ts =>
              match codeUnit? h₁ h₂ h₃ h₄ with
              | none => .error (hexFault es)
              | some n =>
                if isLowSurrogate n then .error (.here .loneSurrogate ts)
                else if isHighSurrogate n then
                  match ts with
                  | [] => .error (.here .endOfString [])
                  | b :: us =>
                    if b = '\\' then
                      match us with
                      | [] => .error (.here .endOfString [])
                      | u :: vs =>
                        if u = 'u' then
                          match vs with
                          | l₁ :: l₂ :: l₃ :: l₄ :: ws =>
                            match codeUnit? l₁ l₂ l₃ l₄ with
                            | none => .error (hexFault vs)
                            | some m =>
                              if isLowSurrogate m then
                                (stringBody ws).map fun r => (pairChar n m :: r.1, r.2)
                              else .error (.here .loneSurrogate ws)
                          | _ => .error (hexFault vs)
                        else .error (.next .brokenPair us)
                    else .error (.next .brokenPair ts)
                else (stringBody ts).map fun r => (Char.ofNat n :: r.1, r.2)
            | _ => .error (hexFault es)
          else .error (.next .badEscape (e :: es))
    else if c.toNat < 32 then .error (.next .controlCharacter (c :: cs))
    else (stringBody cs).map fun r => (c :: r.1, r.2)

/-- The text behind the closing quote of a string that nobody wants to know; its surrogates need
not pair. -/
def skipStringBody : List Char → Except Fault (List Char)
  | [] => .error (.here .endOfString [])
  | c :: cs =>
    if c = '"' then .ok cs
    else if c = '\\' then
      match cs with
      | [] => .error (.here .endOfString [])
      | e :: es =>
        match unescape? e with
        | some _ => skipStringBody es
        | none =>
          if e = 'u' then
            match es with
            | h₁ :: h₂ :: h₃ :: h₄ :: ts =>
              match codeUnit? h₁ h₂ h₃ h₄ with
              | none => .error (hexFault es)
              | some _ => skipStringBody ts
            | _ => .error (hexFault es)
          else .error (.next .badEscape (e :: es))
    else if c.toNat < 32 then .error (.here .controlCharacter (c :: cs))
    else skipStringBody cs

end BoolCalc.Json
