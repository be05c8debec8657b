import Mathlib.Tactic.Linarith
import Mathlib.Tactic.Ring
import VoucherDesk.Double.Basic

/-!
# Rounding to doubles

A quotient is rounded to a multiple of a power of two, so chosen that the significand has no
more than 53 digits. All bounds are stated in smallest units and without fractions: a rounded
magnitude differs from the exact one by at most half of the power, and the power is small
against the magnitude. A quotient has no finite double just from half a step above the largest
one on.
-/

namespace VoucherDesk

/-- A quotient is rounded by its remainder: down below a half, up above it, and at a half to the
even neighbour. -/
theorem roundHalfEven_cases (num : Nat) {den : Nat} (hden : 0 < den) :
    ∃ q r, num = q * den + r ∧ r < den ∧
      ((2 * r ≤ den ∧ roundHalfEven num den = q ∧ (2 * r = den → q % 2 = 0)) ∨
        (den ≤ 2 * r ∧ roundHalfEven num den = q + 1 ∧ (2 * r = den → q % 2 = 1))) := by
  have hsplit : num = num / den * den + num % den := (Nat.div_add_mod' num den).symm
  refine ⟨num / den, num % den, hsplit, Nat.mod_lt num hden, ?_⟩
  have hrounded : roundHalfEven num den = if 2 * (num % den) < den then num / den
      else if den < 2 * (num % den) then num / den + 1 else num / den + num / den % 2 := rfl
  by_cases hbelow : 2 * (num % den) < den
  · rw [if_pos hbelow] at hrounded
    exact Or.inl ⟨by omega, hrounded, by omega⟩
  · rw [if_neg hbelow] at hrounded
    by_cases habove : den < 2 * (num % den)
    · rw [if_pos habove] at hrounded
      exact Or.inr ⟨by omega, hrounded, by omega⟩
    · rw [if_neg habove] at hrounded
      by_cases heven : num / den % 2 = 0
      · exact Or.inl ⟨by omega, by omega, fun _ => heven⟩
      · exact Or.inr ⟨by omega, by omega, by omega⟩

/-- A rounded quotient differs from the exact one by at most a half. -/
theorem roundHalfEven_error (num : Nat) {den : Nat} (hden : 0 < den) :
    2 * (roundHalfEven num den * den) ≤ 2 * num + den ∧
      2 * num ≤ 2 * (roundHalfEven num den * den) + den := by
  obtain ⟨q, r, rfl, hr, ⟨hhalf, hq, -⟩ | ⟨hhalf, hq, -⟩⟩ := roundHalfEven_cases num hden
  · rw [hq]
    omega
  · have hsucc : (q + 1) * den = q * den + den := Nat.succ_mul q den
    rw [hq]
    omega

/-- A quotient is rounded above an odd number just from the half above that number on. -/
theorem lt_roundHalfEven_iff (num : Nat) {den k : Nat} (hden : 0 < den) (hodd : k % 2 = 1) :
    k < roundHalfEven num den ↔ (2 * k + 1) * den ≤ 2 * num := by
  obtain ⟨q, r, rfl, hr, hcases⟩ := roundHalfEven_cases num hden
  have hsplit : (2 * k + 1) * den = 2 * (k * den) + den := by ring
  rw [hsplit]
  rcases Nat.lt_trichotomy k q with hlt | rfl | hgt
  · -- Both sides hold: the quotient is at least the next number.
    have hmul : (k + 1) * den ≤ q * den := Nat.mul_le_mul_right den hlt
    rw [Nat.succ_mul] at hmul
    omega
  · omega
  · -- Neither side holds: the quotient is below the number.
    have hmul : (q + 1) * den ≤ k * den := Nat.mul_le_mul_right den hgt
    rw [Nat.succ_mul] at hmul
    omega

namespace Double

/-- The power of two at which a magnitude is rounded is 1 for magnitudes below `2 ^ 53`, and is
otherwise so large that 53 digits are left of the magnitude. -/
theorem exponentFor_cases (units : Nat) :
    (exponentFor units = 0 ∧ units < 2 ^ 53) ∨
      (2 ^ (exponentFor units + 52) ≤ units ∧ units < 2 ^ (exponentFor units + 53)) := by
  unfold exponentFor
  by_cases hsmall : units < Nat.pow 2 53
  · rw [if_pos hsmall]
    exact Or.inl ⟨rfl, hsmall⟩
  · rw [if_neg hsmall]
    have hlarge : 2 ^ 53 ≤ units := Nat.le_of_not_lt hsmall
    have hne : units ≠ 0 := by
      have hpos : 0 < 2 ^ 53 := by decide
      omega
    have hlog : 53 ≤ units.log2 := (Nat.le_log2 hne).mpr hlarge
    refine Or.inr ⟨?_, ?_⟩
    · rw [show units.log2 - 52 + 52 = units.log2 by omega]
      exact Nat.log2_self_le hne
    · rw [show units.log2 - 52 + 53 = units.log2 + 1 by omega]
      exact Nat.lt_log2_self

/-- The exact magnitude of a quotient in smallest units lies where its power of two puts it. -/
theorem exponentFor_bounds (num : Nat) {den : Nat} (hden : 0 < den) :
    num < 2 ^ 53 * (den * 2 ^ exponentFor (num / den)) ∧
      2 ^ 52 * (den * 2 ^ exponentFor (num / den)) ≤ max num (2 ^ 52 * den) := by
  have hlt : num < (num / den + 1) * den := Nat.lt_mul_of_div_lt (Nat.lt_succ_self _) hden
  have hle : num / den * den ≤ num := Nat.div_mul_le_self num den
  rcases exponentFor_cases (num / den) with ⟨hzero, hsmall⟩ | ⟨hlower, hupper⟩
  · rw [hzero]
    refine ⟨?_, ?_⟩
    · have hmul : (num / den + 1) * den ≤ 2 ^ 53 * den := Nat.mul_le_mul_right den hsmall
      omega
    · omega
  · generalize exponentFor (num / den) = e at hlower hupper
    refine ⟨?_, ?_⟩
    · calc num < (num / den + 1) * den := hlt
        _ ≤ 2 ^ (e + 53) * den := Nat.mul_le_mul_right den hupper
        _ = 2 ^ 53 * (den * 2 ^ e) := by ring
    · calc 2 ^ 52 * (den * 2 ^ e) = 2 ^ (e + 52) * den := by ring
        _ ≤ num / den * den := Nat.mul_le_mul_right den hlower
        _ ≤ num := hle
        _ ≤ max num (2 ^ 52 * den) := Nat.le_max_left ..

/-- The rounded significand has no more than 53 digits, but for the one that is carried. -/
theorem roundHalfEven_le (num : Nat) {den : Nat} (hden : 0 < den) :
    roundHalfEven num (den * 2 ^ exponentFor (num / den)) ≤ 2 ^ 53 := by
  have hstep : 0 < den * 2 ^ exponentFor (num / den) :=
    Nat.mul_pos hden (Nat.two_pow_pos _)
  have hbound := (exponentFor_bounds num hden).1
  generalize den * 2 ^ exponentFor (num / den) = step at hstep hbound
  obtain ⟨q, r, rfl, hr, hcases⟩ := roundHalfEven_cases num hstep
  have hq : q < 2 ^ 53 := by
    by_contra hge
    have hmul : 2 ^ 53 * step ≤ q * step := Nat.mul_le_mul_right step (Nat.le_of_not_lt hge)
    omega
  omega

/-- A rounded magnitude is the rounded significand at its power of two, whether or not it was
carried. -/
theorem roundUnits_eq_some {num den m e : Nat} (hden : 0 < den)
    (h : roundUnits num den = some (m, e)) :
    m * 2 ^ e = roundHalfEven num (den * 2 ^ exponentFor (num / den)) *
      2 ^ exponentFor (num / den) := by
  have hle := roundHalfEven_le num hden
  unfold roundUnits at h
  simp only [Nat.pow_eq] at h
  generalize hm : roundHalfEven num (den * 2 ^ exponentFor (num / den)) = m' at h hle
  generalize exponentFor (num / den) = e' at h hle
  by_cases hsmall : m' < 2 ^ 53
  · rw [if_pos hsmall] at h
    obtain ⟨-, rfl, rfl⟩ : e' ≤ maxExponent ∧ m' = m ∧ e' = e := by simpa using h
    rfl
  · rw [if_neg hsmall] at h
    obtain ⟨-, rfl, rfl⟩ : e' + 1 ≤ maxExponent ∧ 2 ^ 52 = m ∧ e' + 1 = e := by simpa using h
    have hm' : m' = 2 ^ 53 := by omega
    rw [hm']
    ring

/-- A rounded magnitude differs from the exact one by at most half a step, and the step is one
smallest unit or at most the `2 ^ 52`th part of the exact magnitude. -/
theorem roundUnits_error {num den m e : Nat} (hden : 0 < den)
    (h : roundUnits num den = some (m, e)) :
    ∃ step, 2 * (m * 2 ^ e * den) ≤ 2 * num + step ∧ 2 * num ≤ 2 * (m * 2 ^ e * den) + step ∧
      2 ^ 52 * step ≤ max num (2 ^ 52 * den) := by
  have hstep : 0 < den * 2 ^ exponentFor (num / den) := Nat.mul_pos hden (Nat.two_pow_pos _)
  have hmagnitude : m * 2 ^ e * den =
      roundHalfEven num (den * 2 ^ exponentFor (num / den)) *
        (den * 2 ^ exponentFor (num / den)) := by
    rw [roundUnits_eq_some hden h]
    ring
  obtain ⟨habove, hbelow⟩ := roundHalfEven_error num hstep
  rw [← hmagnitude] at habove hbelow
  exact ⟨_, habove, hbelow, (exponentFor_bounds num hden).2⟩

/-- A quotient has no finite double just when its power of two is too high, or is the last one and
its significand is carried. -/
theorem roundUnits_eq_none (num den : Nat) :
    roundUnits num den = none ↔ maxExponent < exponentFor (num / den) ∨
      (exponentFor (num / den) = maxExponent ∧
        2 ^ 53 ≤ roundHalfEven num (den * 2 ^ exponentFor (num / den))) := by
  unfold roundUnits
  simp only [Nat.pow_eq]
  generalize roundHalfEven num (den * 2 ^ exponentFor (num / den)) = m
  generalize exponentFor (num / den) = e
  by_cases hsmall : m < 2 ^ 53
  · rw [if_pos hsmall]
    simp only [ite_eq_right_iff, reduceCtorEq, imp_false]
    omega
  · rw [if_neg hsmall]
    simp only [ite_eq_right_iff, reduceCtorEq, imp_false]
    omega

/-- A quotient is beyond the finite range just from half a step above the largest double on. -/
theorem roundUnits_eq_none_iff (num : Nat) {den : Nat} (hden : 0 < den) :
    roundUnits num den = none ↔ (2 ^ 54 - 1) * (den * 2 ^ maxExponent) ≤ 2 * num := by
  obtain ⟨hbound, hstep⟩ := exponentFor_bounds num hden
  rw [roundUnits_eq_none]
  have hlast : 0 < den * 2 ^ maxExponent := Nat.mul_pos hden (Nat.two_pow_pos _)
  have hdouble (e f : Nat) (h : e < f) : 2 * (den * 2 ^ e) ≤ den * 2 ^ f := by
    calc 2 * (den * 2 ^ e) = den * 2 ^ (e + 1) := by ring
      _ ≤ den * 2 ^ f := Nat.mul_le_mul_left den (Nat.pow_le_pow_right (by decide) h)
  rcases Nat.lt_trichotomy (exponentFor (num / den)) maxExponent with hlt | heq | hgt
  · -- The step is at most half of the last one: even a carried significand is finite.
    have hhalf := hdouble _ _ hlt
    omega
  · -- The step is the last one, and the significand must not be carried.
    rw [heq]
    have hcarried := lt_roundHalfEven_iff num hlast (k := 2 ^ 53 - 1) (by decide)
    omega
  · -- The step is beyond the last one.
    have hhalf := hdouble _ _ hgt
    have hden' := hdouble 0 (exponentFor (num / den)) (by omega)
    rw [pow_zero, Nat.mul_one] at hden'
    omega

/-- A magnitude of at least one smallest unit is not rounded away. -/
theorem roundUnits_pos {num den m e : Nat} (hden : 0 < den) (hnum : den ≤ num)
    (h : roundUnits num den = some (m, e)) : 0 < m * 2 ^ e := by
  obtain ⟨step, -, hbelow, hstep⟩ := roundUnits_error hden h
  refine Nat.pos_of_ne_zero fun hzero => ?_
  rw [hzero, Nat.zero_mul] at hbelow
  omega

/-- A finite double in smallest units. -/
theorem units?_finite (negative : Bool) (m e : Nat) :
    (finite negative m e).units? =
      some (if negative then -((m * 2 ^ e : Nat) : Int) else (m * 2 ^ e : Nat)) := by
  cases negative <;> rfl

/-- One is made of smallest units. -/
theorem unitsPerOne_pos : 0 < unitsPerOne := by
  unfold unitsPerOne
  generalize 1074 = n
  exact Nat.two_pow_pos n

/-- One is made of as many of them as a power of two up to the 1074th. -/
theorem two_pow_le_unitsPerOne {k : Nat} (h : k ≤ 1074) : 2 ^ k ≤ unitsPerOne := by
  unfold unitsPerOne
  generalize 1074 = n at h
  exact Nat.pow_le_pow_right (by decide) h

/-- One is made of more than 20 binary digits of them. -/
theorem le_unitsPerOne : 2 ^ 20 ≤ unitsPerOne := two_pow_le_unitsPerOne (by decide)

/-- The floor of a double is negative just when the double is. -/
theorem floor?_nonneg_iff {x : Double} {n : Int} (h : x.floor? = some n) :
    ∃ u, x.units? = some u ∧ (0 ≤ n ↔ 0 ≤ u) := by
  obtain ⟨u, hu, rfl⟩ := Option.map_eq_some_iff.mp h
  exact ⟨u, hu, Int.ediv_nonneg_iff_of_pos (Int.natCast_pos.mpr unitsPerOne_pos)⟩

/-- A double that can be counted in smallest units has a floor. -/
theorem exists_floor? {x : Double} {u : Int} (h : x.units? = some u) : ∃ n, x.floor? = some n := by
  refine ⟨u / unitsPerOne, ?_⟩
  unfold floor?
  rw [h]
  rfl

/-- The whole number that a double equals is its floor. -/
theorem floor?_of_toInt? {x : Double} {n : Int} (h : x.toInt? = some n) : x.floor? = some n := by
  unfold toInt? at h
  unfold floor?
  cases hu : x.units? with
  | none =>
    rw [hu] at h
    cases h
  | some u =>
    rw [hu] at h
    dsimp only at h
    split at h
    · exact h
    · cases h

/-- A quotient by a positive number in smallest units: it is not negative where the dividend is not,
and differs from the exact quotient by at most half a step. -/
theorem ofQuotient?_error {num den : Int} {x : Double} (hden : 0 < den)
    (h : ofQuotient? num den = some x) :
    ∃ u step : Int, x.units? = some u ∧ (0 ≤ num → 0 ≤ u) ∧
      2 * (u * den) ≤ 2 * (num * unitsPerOne) + step ∧
      2 * (num * unitsPerOne) ≤ 2 * (u * den) + step ∧
      2 ^ 52 * step ≤ max (|num| * unitsPerOne) (2 ^ 52 * den) := by
  obtain ⟨⟨m, e⟩, hround, rfl⟩ := Option.map_eq_some_iff.mp h
  obtain ⟨d, rfl⟩ := Int.eq_ofNat_of_zero_le hden.le
  have hd : 0 < d := Int.natCast_pos.mp hden
  rw [Int.natAbs_natCast] at hround
  obtain ⟨step, habove, hbelow, hstep⟩ := roundUnits_error hd hround
  have hplus : decide ((d : Int) < 0) = false := decide_eq_false (by omega)
  rw [hplus, Bool.bne_false, units?_finite]
  generalize m * 2 ^ e = M at habove hbelow
  generalize unitsPerOne = W at habove hbelow hstep
  have habove : (2 * (M * d) : Int) ≤ 2 * (num.natAbs * W) + step := by exact_mod_cast habove
  have hbelow : (2 * (num.natAbs * W) : Int) ≤ 2 * (M * d) + step := by exact_mod_cast hbelow
  have hstep : (2 ^ 52 * step : Int) ≤ max (|num| * W) (2 ^ 52 * d) := by
    rw [Int.abs_eq_natAbs]
    exact_mod_cast hstep
  rcases lt_or_ge num 0 with hneg | hpos
  · have hnum : num = -(num.natAbs : Int) := by omega
    refine ⟨-(M : Int), step, ?_, by omega, ?_, ?_, hstep⟩
    · rw [decide_eq_true hneg, if_pos rfl]
    · rw [hnum]
      linarith
    · rw [hnum]
      linarith
  · have hnum : num = (num.natAbs : Int) := by omega
    refine ⟨(M : Int), step, ?_, by omega, ?_, ?_, hstep⟩
    · rw [decide_eq_false (by omega), if_neg (by simp)]
    · rw [hnum]
      exact habove
    · rw [hnum]
      exact hbelow

/-- Rounding does not carry a quotient over zero. -/
theorem ofQuotient?_nonneg_iff {num den u : Int} {x : Double} (hden : 0 < den)
    (hsmall : den ≤ 2 ^ 20) (h : ofQuotient? num den = some x) (hu : x.units? = some u) :
    0 ≤ u ↔ 0 ≤ num := by
  obtain ⟨w, step, hw, hnonneg, habove, -, hstep⟩ := ofQuotient?_error hden h
  obtain rfl := Option.some.inj (hu.symm.trans hw)
  refine ⟨fun hpos => ?_, hnonneg⟩
  by_contra hneg
  have hunits : (2 ^ 20 : Int) ≤ unitsPerOne := by exact_mod_cast le_unitsPerOne
  have hfar : num * unitsPerOne ≤ -1 * unitsPerOne :=
    mul_le_mul_of_nonneg_right (by omega) (by omega)
  have habs : |num| * unitsPerOne = -(num * unitsPerOne) := by
    rw [abs_of_neg (by omega), neg_mul]
  have hproduct : 0 ≤ u * den := mul_nonneg hpos hden.le
  rw [habs] at hstep
  omega

/-- Half a step above the largest double. -/
def overflow : Nat := (2 ^ 54 - 1) * 2 ^ 970

/-- Twice as much is an odd number of last steps, one step below twice the first power of two that
is beyond the range. -/
theorem two_mul_overflow : 2 * (overflow * unitsPerOne) = (2 ^ 54 - 1) * 2 ^ maxExponent := by
  have hexponent : 970 + 1 + 1074 = maxExponent := rfl
  unfold overflow unitsPerOne
  generalize 970 = k at hexponent
  generalize 1074 = n at hexponent
  rw [← hexponent, Nat.pow_eq]
  generalize 2 ^ 54 - 1 = m
  ring

/-- A quotient has no finite double just from half a step above the largest one on. -/
theorem ofQuotient?_eq_none_iff (num : Int) {den : Int} (hden : 0 < den) :
    ofQuotient? num den = none ↔ den.natAbs * overflow ≤ num.natAbs := by
  rw [ofQuotient?, Option.map_eq_none_iff, roundUnits_eq_none_iff _ (by omega)]
  have hunits : (2 ^ 54 - 1) * (den.natAbs * 2 ^ maxExponent) =
      2 * (den.natAbs * overflow * unitsPerOne) := by
    calc (2 ^ 54 - 1) * (den.natAbs * 2 ^ maxExponent)
        = den.natAbs * ((2 ^ 54 - 1) * 2 ^ maxExponent) := Nat.mul_left_comm ..
      _ = den.natAbs * (2 * (overflow * unitsPerOne)) := by rw [two_mul_overflow]
      _ = 2 * (den.natAbs * overflow * unitsPerOne) := by ring
  rw [hunits, Nat.mul_le_mul_left_iff (by decide), Nat.mul_le_mul_right_iff unitsPerOne_pos]

/-- Whole numbers of 64 digits are far from the end of the finite range. -/
theorem unitsPerOne_mul_le : 2 ^ 64 * unitsPerOne ≤ 2 ^ maxExponent := by
  have hexponent : 64 + 1074 ≤ maxExponent := by decide
  unfold unitsPerOne
  generalize 1074 = n at hexponent
  generalize maxExponent = k at hexponent
  calc 2 ^ 64 * Nat.pow 2 n = 2 ^ (64 + n) := (Nat.pow_add 2 64 n).symm
    _ ≤ 2 ^ k := Nat.pow_le_pow_right (by decide) hexponent

/-- Quotients of whole numbers of 63 digits have finite doubles. -/
theorem ofQuotient?_isSome {num den : Int} (hden : 0 < den) (hnum : num.natAbs ≤ 2 ^ 63) :
    ∃ x, ofQuotient? num den = some x := by
  refine Option.ne_none_iff_exists'.mp fun hnone => ?_
  rw [ofQuotient?_eq_none_iff num hden] at hnone
  have hlarge : 2 ^ 64 ≤ overflow := by
    have hexponent : 64 ≤ 970 := by decide
    unfold overflow
    generalize 970 = k at hexponent
    calc 2 ^ 64 ≤ 2 ^ k := Nat.pow_le_pow_right (by decide) hexponent
      _ ≤ (2 ^ 54 - 1) * 2 ^ k := Nat.le_mul_of_pos_left _ (by decide)
  have hquotient : 1 * overflow ≤ den.natAbs * overflow := Nat.mul_le_mul_right _ (by omega)
  omega

/-- The floor of a sum is negative just when the exact sum is. -/
theorem add_floor?_nonneg_iff {a b : Double} {u v n : Int} (ha : a.units? = some u)
    (hb : b.units? = some v) (h : (a.add b).floor? = some n) : 0 ≤ n ↔ 0 ≤ u + v := by
  obtain ⟨w, hw, hfloor⟩ := floor?_nonneg_iff h
  rw [hfloor]
  unfold add at hw
  simp only [ha, hb] at hw
  by_cases hzero : u + v = 0
  · rw [if_pos hzero, units?_finite] at hw
    simp only [Nat.zero_mul, Int.natCast_zero, Int.neg_zero, ite_self] at hw
    obtain rfl := Option.some.inj hw
    omega
  · rw [if_neg hzero] at hw
    unfold ofUnits at hw
    cases hround : roundUnits (u + v).natAbs 1 with
    | none =>
      rw [hround] at hw
      cases hw
    | some p =>
      obtain ⟨m, e⟩ := p
      have hpos := roundUnits_pos Nat.one_pos (by omega) hround
      rw [hround] at hw
      simp only [units?_finite] at hw
      generalize m * 2 ^ e = M at hw hpos
      by_cases hneg : u + v < 0
      · rw [decide_eq_true hneg, if_pos rfl] at hw
        obtain rfl := Option.some.inj hw
        omega
      · rw [decide_eq_false hneg, if_neg (by simp)] at hw
        obtain rfl := Option.some.inj hw
        omega

/-- A sum far from the end of the finite range has a floor. -/
theorem add_floor?_isSome {a b : Double} {u v : Int} (ha : a.units? = some u)
    (hb : b.units? = some v) (h : (u + v).natAbs ≤ 2 ^ 64 * unitsPerOne) :
    ∃ n, (a.add b).floor? = some n := by
  unfold add floor?
  simp only [ha, hb]
  by_cases hzero : u + v = 0
  · rw [if_pos hzero, units?_finite]
    exact ⟨_, rfl⟩
  · rw [if_neg hzero]
    unfold ofUnits
    cases hround : roundUnits (u + v).natAbs 1 with
    | none =>
      rw [roundUnits_eq_none_iff _ Nat.one_pos] at hround
      have hlarge := unitsPerOne_mul_le
      have hlast : 0 < 2 ^ maxExponent := Nat.two_pow_pos _
      omega
    | some p =>
      simp only [units?_finite]
      exact ⟨_, rfl⟩

/-- The significand and the exponent of a finite double are in their ranges. -/
def InFormat : Double → Prop
  | finite _ m e => m < 2 ^ 53 ∧ e ≤ maxExponent
  | _ => True

/-- What is rounded has a significand and an exponent in their ranges. -/
theorem inFormat_of_roundUnits {num den m e : Nat} (hden : 0 < den)
    (h : roundUnits num den = some (m, e)) (negative : Bool) :
    (finite negative m e).InFormat := by
  have hle := roundHalfEven_le num hden
  unfold roundUnits at h
  simp only [Nat.pow_eq] at h
  generalize roundHalfEven num (den * 2 ^ exponentFor (num / den)) = m' at h hle
  generalize exponentFor (num / den) = e' at h
  by_cases hsmall : m' < 2 ^ 53
  · rw [if_pos hsmall] at h
    obtain ⟨he, rfl, rfl⟩ : e' ≤ maxExponent ∧ m' = m ∧ e' = e := by simpa using h
    exact ⟨hsmall, he⟩
  · rw [if_neg hsmall] at h
    obtain ⟨he, rfl, rfl⟩ : e' + 1 ≤ maxExponent ∧ 2 ^ 52 = m ∧ e' + 1 = e := by simpa using h
    exact ⟨by decide, he⟩

/-- A quotient is rounded into the format. -/
theorem inFormat_ofQuotient? {num den : Int} {x : Double} (hden : 0 < den)
    (h : ofQuotient? num den = some x) : x.InFormat := by
  obtain ⟨⟨m, e⟩, hround, rfl⟩ := Option.map_eq_some_iff.mp h
  exact inFormat_of_roundUnits (by omega) hround _

/-- A sum stays in the format. -/
theorem InFormat.add {a b : Double} (ha : a.InFormat) (hb : b.InFormat) : (a.add b).InFormat := by
  unfold Double.add
  split
  · split
    · exact ⟨by decide, Nat.zero_le _⟩
    · unfold ofUnits
      split
      · next hround => exact inFormat_of_roundUnits Nat.one_pos hround _
      · trivial
  · exact hb
  · exact ha
  · split
    · exact ha
    · trivial

/-- In the format no floor is beyond the first power of two that is out of range. -/
theorem InFormat.natAbs_floor?_le {x : Double} (hx : x.InFormat) {n : Int}
    (h : x.floor? = some n) : n.natAbs ≤ 2 ^ 1024 := by
  obtain ⟨u, hu, rfl⟩ := Option.map_eq_some_iff.mp h
  cases x with
  | nan => cases hu
  | infinite negative => cases hu
  | finite negative m e =>
    obtain ⟨hm, he⟩ := hx
    -- The magnitude in smallest units is below the one of the power of two.
    have hmagnitude : m * 2 ^ e ≤ 2 ^ 1024 * unitsPerOne := by
      have hexponent : 53 + maxExponent = 1024 + 1074 := rfl
      unfold unitsPerOne
      generalize 1024 = k at hexponent
      generalize 1074 = j at hexponent
      calc m * 2 ^ e ≤ 2 ^ 53 * 2 ^ maxExponent :=
            Nat.mul_le_mul hm.le (Nat.pow_le_pow_right (by decide) he)
        _ = 2 ^ (k + j) := by rw [← Nat.pow_add, hexponent]
        _ = 2 ^ k * Nat.pow 2 j := Nat.pow_add 2 k j
    rw [units?_finite] at hu
    have hpos := unitsPerOne_pos
    generalize m * 2 ^ e = M at hu hmagnitude
    generalize unitsPerOne = W at hmagnitude hpos
    generalize 2 ^ 1024 = K at hmagnitude
    have habove : u ≤ (K : Int) * W := by
      have hbound : (M : Int) ≤ K * W := by exact_mod_cast hmagnitude
      cases negative <;> simp at hu <;> omega
    have hbelow : -(K : Int) * W ≤ u := by
      have hbound : (M : Int) ≤ K * W := by exact_mod_cast hmagnitude
      rw [neg_mul]
      cases negative <;> simp at hu <;> omega
    have hW : (0 : Int) < W := by exact_mod_cast hpos
    have hupper := Int.ediv_le_of_le_mul hW habove
    have hlower := (Int.le_ediv_iff_mul_le hW).mpr hbelow
    omega

end Double

end VoucherDesk
