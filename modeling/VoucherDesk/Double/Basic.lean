/-!
# Double-precision numbers as exact data

A finite double is a sign, a significand below `2^53` and a unit `2^(exponent - 1074)`,
so every operation below is exact integer arithmetic followed by one rounding to the
nearest double, ties to the even significand. Comparing a double with a whole number
never rounds.
-/

namespace VoucherDesk

/-- A double: not a number, a signed infinity, or `± significand · 2^(exponent - 1074)`. -/
inductive Double where
  | nan
  | infinite (negative : Bool)
  | finite (negative : Bool) (significand exponent : Nat)
  deriving DecidableEq, Repr, Inhabited

/-- The quotient rounded to a whole number, a half going to the even neighbour. -/
def roundHalfEven (num den : Nat) : Nat :=
  let q := num / den
  let r := num % den
  if 2 * r < den then q
  else if den < 2 * r then q + 1
  else q + q % 2

namespace Double

/-- The smallest positive double is `1 / unitsPerOne`. -/
def unitsPerOne : Nat := Nat.pow 2 1074

/-- The largest exponent of a finite double. -/
def maxExponent : Nat := 2045

/-- The exponent at which a magnitude with this whole part has at most 53 digits of significand. -/
def exponentFor (units : Nat) : Nat :=
  if units < Nat.pow 2 53 then 0 else Nat.log2 units - 52

/-- The double nearest to `num / den` smallest units, `none` when it is beyond the finite range. -/
def roundUnits (num den : Nat) : Option (Nat × Nat) :=
  let e := exponentFor (num / den)
  let m := roundHalfEven num (den * Nat.pow 2 e)
  let p := if m < Nat.pow 2 53 then (m, e) else (Nat.pow 2 52, e + 1)
  if p.2 ≤ maxExponent then some p else none

/-- A signed magnitude in smallest units, rounded; beyond the finite range it is infinite. -/
def ofUnits (negative : Bool) (num den : Nat) : Double :=
  match roundUnits num den with
  | some (m, e) => .finite negative m e
  | none => .infinite negative

/-- The quotient of two whole numbers, rounded once; `none` when it is beyond the finite range.
A zero quotient carries the sign of its divisor. -/
def ofQuotient? (num den : Int) : Option Double :=
  (roundUnits (num.natAbs * unitsPerOne) den.natAbs).map fun p =>
    .finite (decide (num < 0) != decide (den < 0)) p.1 p.2

/-- A whole number rounded to a double; `none` when it is beyond the finite range. -/
def ofInt? (n : Int) : Option Double := ofQuotient? n 1

/-- The magnitude of a finite double in smallest units. -/
def magnitude : Double → Nat
  | .finite _ m e => m * Nat.pow 2 e
  | _ => 0

/-- Whether the sign is minus; a quiet value that is no number counts as plus. -/
def isNegative : Double → Bool
  | .finite s _ _ => s
  | .infinite s => s
  | .nan => false

/-- A finite double in smallest units, with its sign. -/
def units? : Double → Option Int
  | .finite true m e => some (-(m * Nat.pow 2 e : Nat))
  | .finite false m e => some (m * Nat.pow 2 e : Nat)
  | _ => none

/-- Neither infinite nor `nan`. -/
def isFinite : Double → Bool
  | .finite .. => true
  | _ => false

/-- The whole number that a finite double equals, if it is one. -/
def toInt? (x : Double) : Option Int :=
  match x.units? with
  | some u => if u % unitsPerOne = 0 then some (u / unitsPerOne) else none
  | none => none

/-- The greatest whole number not above a finite double. -/
def floor? (x : Double) : Option Int :=
  x.units?.map fun u => u / unitsPerOne

/-- A doubled sign is a plus, and two different signs are a minus. -/
def signOf (a b : Double) : Bool := a.isNegative != b.isNegative

/-- The sum, rounded once. -/
def add (a b : Double) : Double :=
  match a.units?, b.units? with
  | some u, some v =>
    if u + v = 0 then .finite (a.isNegative && b.isNegative) 0 0
    else ofUnits (u + v < 0) (u + v).natAbs 1
  | some _, none => b
  | none, some _ => a
  | none, none => if a = b then a else .nan

/-- The quotient, rounded once, of a dividend by a divisor that is not zero. -/
def divNonzero (a b : Double) : Double :=
  match a, b with
  | .nan, _ => .nan
  | _, .nan => .nan
  | .infinite _, .infinite _ => .nan
  | .infinite _, .finite .. => .infinite (signOf a b)
  | .finite .., .infinite _ => .finite (signOf a b) 0 0
  | .finite .., .finite .. => ofUnits (signOf a b) (a.magnitude * unitsPerOne) b.magnitude

/-- Whether the double is a zero of either sign. -/
def isZero : Double → Bool
  | .finite _ m _ => m == 0
  | _ => false

/-- Numeric equality: zeros of both signs are equal, and `nan` equals nothing. -/
def numEq (a b : Double) : Bool :=
  match a, b with
  | .nan, _ => false
  | _, .nan => false
  | .infinite s, .infinite t => s == t
  | .finite .., .finite .. => a.units? == b.units?
  | _, _ => false

/-- Exact equality with a whole number. -/
def eqInt (x : Double) (n : Int) : Bool :=
  x.units? == some (n * unitsPerOne)

/-- Whether the double is at least a whole number; `nan` never is. -/
def geInt (x : Double) (n : Int) : Bool :=
  match x with
  | .nan => false
  | .infinite s => !s
  | .finite .. => x.units?.any (n * unitsPerOne ≤ ·)

end Double

end VoucherDesk
