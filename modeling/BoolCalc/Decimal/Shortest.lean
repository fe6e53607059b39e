/-!
# Shortest decimal text of a floating point number

A finite number stands for all reals that round to it. Among the decimals in that interval
`shortest` takes one with the fewest digits, and of those the nearest to the number; a tie goes
to the even digit. `text` lays the digits out: positional while the first digit stands between
the fifth place after the point and the sixteenth before it, otherwise with a signed exponent.
-/

namespace BoolCalc.Decimal

/-- The reals that round to a positive number, as fractions over one denominator: the number
itself is `mid / unit`, and the ends belong to the interval when `closed` holds. -/
structure Interval where
  low : Nat
  mid : Nat
  high : Nat
  unit : Nat
  closed : Bool

/-- The interval of the number `m * 2 ^ q`; below a power of two the gap is half as wide. -/
def Interval.around (m : Nat) (q : Int) (narrow : Bool) : Interval :=
  let scale := Nat.pow 2 (q - 2).toNat
  { low := (4 * m - if narrow then 1 else 2) * scale
    mid := 4 * m * scale
    high := (4 * m + 2) * scale
    unit := Nat.pow 2 (2 - q).toNat
    closed := m % 2 == 0 }

namespace Interval

variable (i : Interval)

/-- The interval measured in units of `10 ^ k`. -/
def onGrid (k : Int) : Interval :=
  let up := Nat.pow 10 (-k).toNat
  { i with
    low := i.low * up, mid := i.mid * up, high := i.high * up
    unit := i.unit * Nat.pow 10 k.toNat }

/-- Whether the whole number `c` lies in the interval. -/
def holds (c : Nat) : Bool :=
  let v := c * i.unit
  if i.closed then i.low ≤ v && v ≤ i.high else i.low < v && v < i.high

/-- The whole number in the interval that is nearest to its middle, if one of the two next to the
middle lies in it. -/
def whole? : Option Nat :=
  let c := i.mid / i.unit
  let below := i.mid - c * i.unit
  let above := (c + 1) * i.unit - i.mid
  match i.holds c, i.holds (c + 1) with
  | true, true =>
    some (if below < above then c else if above < below then c + 1 else c + c % 2)
  | true, false => some c
  | false, true => some (c + 1)
  | false, false => none

/-- The place of the first digit: the number is at least `10 ^ (p - 1)` and less than `10 ^ p`. -/
def magnitude : Int :=
  if i.unit ≤ i.mid then (Nat.toDigits 10 (i.mid / i.unit)).length
  else 1 - (((List.range 400).find? fun j => i.unit ≤ i.mid * Nat.pow 10 j).getD 400 : Nat)

/-- The shortest decimal of the interval, as digits and the power of ten of the last one. -/
def shortest : Nat × Int :=
  let p := i.magnitude
  ((List.range 17).findSome? fun n =>
    let k := p - (n + 1 : Nat)
    ((i.onGrid k).whole?).map (·, k)).getD (0, 0)

end Interval

/-- The digits without the zeros at the end, and how many those were. -/
def stripZeros (ds : List Char) : List Char × Nat :=
  let zeros := ds.reverse.takeWhile (· == '0')
  (ds.take (ds.length - zeros.length), zeros.length)

/-- The layout of digits `ds` whose last one has the place `10 ^ k`. -/
def layout (ds : List Char) (k : Int) : List Char :=
  let point := ds.length + k
  if 0 ≤ k && point ≤ 16 then ds ++ List.replicate k.toNat '0' ++ ['.', '0']
  else if 0 < point && point ≤ 16 then ds.take point.toNat ++ '.' :: ds.drop point.toNat
  else if -5 < point && point ≤ 0 then ['0', '.'] ++ List.replicate (-point).toNat '0' ++ ds
  else
    let power := point - 1
    let mark := if power < 0 then ['e', '-'] else ['e', '+']
    ds.take 1 ++ (if ds.length = 1 then [] else '.' :: ds.drop 1) ++ mark ++
      Nat.toDigits 10 power.natAbs

/-- The text of a finite number. -/
def text (x : Float) : List Char :=
  let bits := x.toBits.toNat
  let biased := bits / Nat.pow 2 52 % Nat.pow 2 11
  let fraction := bits % Nat.pow 2 52
  let sign := if bits / Nat.pow 2 63 = 1 then ['-'] else []
  let m := if biased = 0 then fraction else fraction + Nat.pow 2 52
  let q := ((if biased = 0 then 1 else biased : Nat) : Int) - 1075
  if m = 0 then sign ++ ['0', '.', '0']
  else
    let (c, k) := (Interval.around m q (fraction = 0 && 1 < biased)).shortest
    let (ds, zeros) := stripZeros (Nat.toDigits 10 c)
    sign ++ layout ds (k + zeros)

end BoolCalc.Decimal
