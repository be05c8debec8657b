import Mathlib.Algebra.Order.Field.Rat
import VoucherDesk.Proofs.Double.Rounding

/-!
# Values of doubles

A finite double is a rational number, and it is read as a whole number just when that is what it
is. Doubles are kept in smallest units, so nothing is rounded on the way.
-/

namespace VoucherDesk.Double

/-- The rational number that a finite double is: its significand times a power of two, with its
sign. -/
def value? : Double → Option Rat
  | .finite negative m e =>
    some ((if negative then -1 else 1) * (m * 2 ^ ((e : Int) - (1074 : Nat))))
  | _ => none

/-- A power of two below one is counted in units of a smaller one. -/
theorem two_zpow_sub (e k : Nat) : (2 : Rat) ^ ((e : Int) - k) = 2 ^ e / (2 ^ k : Nat) := by
  rw [zpow_sub₀ two_ne_zero, zpow_natCast, zpow_natCast, Nat.cast_pow, Nat.cast_ofNat]

/-- The value of a double is its count of smallest units over the count that makes one. -/
theorem value?_eq_units? (x : Double) :
    x.value? = x.units?.map fun u : Int => (u : Rat) / (unitsPerOne : Nat) := by
  cases x with
  | nan => rfl
  | infinite negative => rfl
  | finite negative m e =>
    rw [units?_finite, value?]
    unfold unitsPerOne
    generalize 1074 = k
    rw [two_zpow_sub, Nat.pow_eq]
    generalize 2 ^ k = one
    cases negative with
    | false => simp [mul_div_assoc]
    | true => simp [mul_div_assoc, neg_div]

/-- A double is read as a whole number just when that number is its value. -/
theorem toInt?_eq_some {x : Double} {n : Int} : x.toInt? = some n ↔ x.value? = some (n : Rat) := by
  have hone := unitsPerOne_pos
  rw [value?_eq_units?, toInt?]
  generalize unitsPerOne = k at hone
  have hne : (k : Rat) ≠ 0 := Nat.cast_ne_zero.mpr hone.ne'
  cases x.units? with
  | none => simp
  | some u =>
    have hvalue : (u : Rat) / k = n ↔ u = n * k := by
      rw [div_eq_iff hne]
      norm_cast
    rw [Option.map_some, Option.some_inj, hvalue]
    dsimp only
    constructor
    · intro h
      split at h
      · next hmod =>
        cases h
        exact (Int.ediv_mul_cancel (Int.dvd_of_emod_eq_zero hmod)).symm
      · cases h
    · rintro rfl
      have hk : (k : Int) ≠ 0 := Int.natCast_ne_zero.mpr hone.ne'
      rw [Int.mul_emod_left, if_pos rfl, Int.mul_ediv_cancel _ hk]

end VoucherDesk.Double
