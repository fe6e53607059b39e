/-!
# Ranges of code points

A property of characters is kept as the ranges of code points that have it, both ends included
and in increasing order.
-/

namespace BoolCalc.Text

/-- Whether a character lies in one of some ranges. -/
def isWithin (ranges : List (Nat × Nat)) (c : Char) : Bool :=
  ranges.any fun r => r.1 ≤ c.toNat && c.toNat ≤ r.2

theorem isWithin_iff {ranges : List (Nat × Nat)} {c : Char} :
    isWithin ranges c = true ↔ ∃ r ∈ ranges, r.1 ≤ c.toNat ∧ c.toNat ≤ r.2 := by
  simp [isWithin]

end BoolCalc.Text
