/-!
# Sets of code points

A set of code points is the ascending list of the points where membership changes,
starting from absence: `[48, 58]` is the ASCII digits.
-/

namespace VoucherDesk.Text

/-- A set of code points by the ascending points where membership changes. -/
structure CodeSet where
  changes : Array Nat

namespace CodeSet

/-- How many of the ascending points between two places are at most `code`, counted from zero. -/
def rank (points : Array Nat) (code : Nat) : (fuel low high : Nat) → Nat
  | 0, low, _ => low
  | fuel + 1, low, high =>
    if low < high then
      let middle := (low + high) / 2
      if points.getD middle 0 ≤ code then rank points code fuel (middle + 1) high
      else rank points code fuel low middle
    else low

/-- A code point belongs to the set when an odd number of changes lies at or below it. -/
def contains (set : CodeSet) (code : Nat) : Bool :=
  rank set.changes code 24 0 set.changes.size % 2 == 1

end CodeSet

end VoucherDesk.Text
