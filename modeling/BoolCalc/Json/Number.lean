import BoolCalc.Decimal.Shortest
import BoolCalc.Json.Fault

/-!
# Numbers of a JSON text

A number without point and exponent is an integer as long as 64 bits hold it, signed below zero
and unsigned above. Every other number is a floating point number, of which this library needs no
more than the text, for messages.
-/

namespace BoolCalc.Json

/-- A number as read. -/
inductive Number where
  | natural (n : Nat)
  /-- An integer below zero, by its distance from zero. -/
  | negative (n : Nat)
  | decimal (x : Float)

/-- The number as a message shows it. -/
def Number.found : Number → Found
  | .natural n => .integer n
  | .negative n => .integer (-n)
  | .decimal x => .decimal (Decimal.text x)

/-- The largest natural number of 64 bits. -/
def maxNatural : Nat := 18446744073709551615

/-- The largest exponent that is taken as written. -/
def maxExponent : Nat := 2147483647

/-- The digits at the front of a text, and what follows them. -/
def digits (cs : List Char) : List Char × List Char :=
  (cs.takeWhile Char.isDigit, cs.dropWhile Char.isDigit)

/-- The value of a digit. -/
def digitValue (c : Char) : Nat := c.toNat - 48

/-- The number that a numeral `ds` continues, as long as it stays within `limit`, and the digits
that are too many. -/
def absorb (limit : Nat) : Nat → List Char → Nat × List Char
  | n, [] => (n, [])
  | n, d :: ds =>
    let m := n * 10 + digitValue d
    if m ≤ limit then absorb limit m ds else (n, d :: ds)

/-- How far below zero an integer of 64 bits may lie. -/
def maxNegative : Nat := 9223372036854775808

/-- A power of ten as a floating point number. -/
def powerOfTen (n : Nat) : Float := Float.ofScientific 1 false n

/-- The floating point number nearest to a significand, moved by a power of ten in steps that the
format can hold; `none` if it is too large. -/
def scale? : Nat → Float → Int → Option Float
  | 0, x, _ => some x
  | fuel + 1, x, e =>
    if e.natAbs ≤ 308 then
      if 0 ≤ e then
        let y := x * powerOfTen e.toNat
        if y.isInf then none else some y
      else some (x / powerOfTen e.natAbs)
    else if x == 0.0 then some x
    else if 0 ≤ e then none
    else scale? fuel (x / powerOfTen 308) (e + 308)

/-- The number with significand `n`, power of ten `e` and sign. -/
def decimal (negative : Bool) (n : Nat) (e : Int) (rest : List Char) :
    Except Fault (Number × List Char) :=
  match scale? (e.natAbs / 308 + 1) (UInt64.ofNat n).toFloat e with
  | none => .error (.here .outOfRange rest)
  | some x => .ok (.decimal (if negative then -x else x), rest)

/-- A number from behind the letter of its exponent. -/
def exponentPart (negative : Bool) (n : Nat) (e : Int) (cs : List Char) :
    Except Fault (Number × List Char) :=
  let (down, ds) : Bool × List Char :=
    match cs with
    | '+' :: ds => (false, ds)
    | '-' :: ds => (true, ds)
    | ds => (false, ds)
  match digits ds with
  | ([], []) => .error (.here .endOfValue [])
  | ([], rest) => .error (.next .badNumber rest)
  | (es, rest) =>
    match absorb maxExponent 0 es with
    | (k, []) => decimal negative n (if down then e - k else e + k) rest
    | (_, _ :: more) =>
      if n ≠ 0 && !down then .error (.here .outOfRange (more ++ rest))
      else .ok (.decimal (if negative then -0.0 else 0.0), rest)

/-- A number from behind its decimal point. -/
def fractionPart (negative : Bool) (n : Nat) (e : Int) (cs : List Char) :
    Except Fault (Number × List Char) :=
  match digits cs with
  | ([], []) => .error (.here .endOfValue [])
  | ([], rest) => .error (.next .badNumber rest)
  | (ds, rest) =>
    let (m, more) := absorb maxNatural n ds
    let k : Int := e - (ds.length - more.length : Nat)
    match rest with
    | 'e' :: r | 'E' :: r => exponentPart negative m k r
    | r => decimal negative m k r

/-- A number from behind its digits `n`, of which `extra` more were too many for 64 bits. -/
def afterInteger (negative : Bool) (n extra : Nat) (cs : List Char) :
    Except Fault (Number × List Char) :=
  match cs with
  | '.' :: r => fractionPart negative n extra r
  | 'e' :: r | 'E' :: r => exponentPart negative n extra r
  | r =>
    if 0 < extra then decimal negative n extra r
    else if !negative then .ok (.natural n, r)
    else if n = 0 then .ok (.decimal (-0.0), r)
    else if n ≤ maxNegative then .ok (.negative n, r)
    else decimal true n 0 r

/-- A number, from behind its sign if it has one. -/
def number (negative : Bool) : Reader Number
  | [] => .error (.here .endOfValue [])
  | c :: cs =>
    if c = '0' then
      match cs with
      | d :: _ =>
        if d.isDigit then .error (.next .badNumber cs) else afterInteger negative 0 0 cs
      | [] => afterInteger negative 0 0 []
    else if c.isDigit then
      let (ds, rest) := digits (c :: cs)
      let (n, more) := absorb maxNatural 0 ds
      afterInteger negative n more.length rest
    else .error (.next .badNumber (c :: cs))

/-- The text behind an exponent that nobody wants to know. -/
def skipExponent (cs : List Char) : Except Fault (List Char) :=
  let ds :=
    match cs with
    | '+' :: ds | '-' :: ds => ds
    | ds => ds
  match digits ds with
  | ([], rest) => .error (.next .badNumber rest)
  | (_, rest) => .ok rest

/-- The text behind a number that nobody wants to know, from behind its integer digits. -/
def skipAfterInteger (cs : List Char) : Except Fault (List Char) :=
  match cs with
  | '.' :: r =>
    match digits r with
    | ([], rest) => .error (.next .badNumber rest)
    | (_, 'e' :: rest) | (_, 'E' :: rest) => skipExponent rest
    | (_, rest) => .ok rest
  | 'e' :: r | 'E' :: r => skipExponent r
  | r => .ok r

/-- The text behind a number that nobody wants to know, from behind its sign. -/
def skipNumber : List Char → Except Fault (List Char)
  | [] => .error (.here .badNumber [])
  | c :: cs =>
    if c = '0' then
      match cs with
      | d :: _ => if d.isDigit then .error (.next .badNumber cs) else skipAfterInteger cs
      | [] => .ok []
    else if c.isDigit then skipAfterInteger (digits cs).2
    else .error (.next .badNumber (c :: cs))

end BoolCalc.Json
