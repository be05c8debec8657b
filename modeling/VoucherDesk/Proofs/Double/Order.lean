import Mathlib.Tactic.Linarith
import Mathlib.Tactic.Ring
import VoucherDesk.Proofs.Double.Rounding

/-!
# Order and rounding

Rounding keeps the order: a larger quotient never has a smaller double. Where a multiple of two
steps is concerned it says more. Such a number is reached just from half a step below it on, and
not left behind until half a step above it, so that for every whole number it is known which
quotients are carried to it.
-/

namespace VoucherDesk

/-- A larger number over the same divisor is rounded to no smaller one. -/
theorem roundHalfEven_mono {num num' den : Nat} (hden : 0 < den) (h : num ≤ num') :
    roundHalfEven num den ≤ roundHalfEven num' den := by
  obtain ⟨q, r, rfl, hr, hcases⟩ := roundHalfEven_cases num hden
  obtain ⟨q', r', rfl, hr', hcases'⟩ := roundHalfEven_cases num' hden
  rcases Nat.lt_trichotomy q q' with hlt | rfl | hgt
  · omega
  · omega
  · -- The larger number would have the smaller quotient.
    have hmul : (q' + 1) * den ≤ q * den := Nat.mul_le_mul_right den hgt
    rw [Nat.succ_mul] at hmul
    omega

/-- A quotient is rounded to at most an even number just up to the half above that number. -/
theorem roundHalfEven_le_iff (num : Nat) {den k : Nat} (hden : 0 < den) (heven : k % 2 = 0) :
    roundHalfEven num den ≤ k ↔ 2 * num ≤ (2 * k + 1) * den := by
  obtain ⟨q, r, rfl, hr, hcases⟩ := roundHalfEven_cases num hden
  have hsplit : (2 * k + 1) * den = 2 * (k * den) + den := by ring
  rw [hsplit]
  rcases Nat.lt_trichotomy k q with hlt | rfl | hgt
  · -- Neither side holds: the quotient is at least the next number.
    have hmul : (k + 1) * den ≤ q * den := Nat.mul_le_mul_right den hlt
    rw [Nat.succ_mul] at hmul
    omega
  · omega
  · -- Both sides hold: the quotient is below the number.
    have hmul : (q + 1) * den ≤ k * den := Nat.mul_le_mul_right den hgt
    rw [Nat.succ_mul] at hmul
    omega

namespace Double

/-- A larger magnitude is rounded at no smaller power of two. -/
theorem exponentFor_mono {a b : Nat} (h : a ≤ b) : exponentFor a ≤ exponentFor b := by
  by_contra hgt
  rcases exponentFor_cases a with ⟨hzero, -⟩ | ⟨hlower, -⟩
  · omega
  · have hupper : b < 2 ^ (exponentFor b + 53) := by
      rcases exponentFor_cases b with ⟨hzero, hsmall⟩ | ⟨-, hupper⟩
      · rwa [hzero]
      · exact hupper
    have hpow : 2 ^ (exponentFor b + 53) ≤ 2 ^ (exponentFor a + 52) :=
      Nat.pow_le_pow_right (by decide) (by omega)
    omega

/-- A significand above the smallest power of two is not rounded below 53 digits. -/
theorem le_roundHalfEven {num den : Nat} (hden : 0 < den) (h : 0 < exponentFor (num / den)) :
    2 ^ 52 ≤ roundHalfEven num (den * 2 ^ exponentFor (num / den)) := by
  have hstep : 0 < den * 2 ^ exponentFor (num / den) := Nat.mul_pos hden (Nat.two_pow_pos _)
  have hlower : 2 ^ 52 * (den * 2 ^ exponentFor (num / den)) ≤ num := by
    rcases exponentFor_cases (num / den) with ⟨hzero, -⟩ | ⟨hlower, -⟩
    · omega
    · calc 2 ^ 52 * (den * 2 ^ exponentFor (num / den))
          = 2 ^ (exponentFor (num / den) + 52) * den := by ring
        _ ≤ num / den * den := Nat.mul_le_mul_right den hlower
        _ ≤ num := Nat.div_mul_le_self num den
  have hodd := lt_roundHalfEven_iff num hstep (k := 2 ^ 52 - 1) (by decide)
  generalize den * 2 ^ exponentFor (num / den) = step at *
  omega

/-- A larger magnitude over the same divisor has no smaller double. -/
theorem roundUnits_mono {num num' den m e m' e' : Nat} (hden : 0 < den) (h : num ≤ num')
    (hround : roundUnits num den = some (m, e)) (hround' : roundUnits num' den = some (m', e')) :
    m * 2 ^ e ≤ m' * 2 ^ e' := by
  rw [roundUnits_eq_some hden hround, roundUnits_eq_some hden hround']
  have hexponent := exponentFor_mono (Nat.div_le_div_right h : num / den ≤ num' / den)
  rcases Nat.eq_or_lt_of_le hexponent with heq | hlt
  · -- At the same power of two the significands are compared.
    rw [heq]
    have hstep : 0 < den * 2 ^ exponentFor (num' / den) := Nat.mul_pos hden (Nat.two_pow_pos _)
    exact Nat.mul_le_mul_right _ (roundHalfEven_mono hstep h)
  · -- At different powers a full significand of the smaller is the least one of the larger.
    calc roundHalfEven num (den * 2 ^ exponentFor (num / den)) * 2 ^ exponentFor (num / den)
        ≤ 2 ^ 53 * 2 ^ exponentFor (num / den) :=
          Nat.mul_le_mul_right _ (roundHalfEven_le num hden)
      _ = 2 ^ 52 * 2 ^ (exponentFor (num / den) + 1) := by ring
      _ ≤ 2 ^ 52 * 2 ^ exponentFor (num' / den) :=
          Nat.mul_le_mul_left _ (Nat.pow_le_pow_right (by decide) hlt)
      _ ≤ roundHalfEven num' (den * 2 ^ exponentFor (num' / den)) *
          2 ^ exponentFor (num' / den) :=
          Nat.mul_le_mul_right _ (le_roundHalfEven hden (by omega))

/-- A multiple of two steps is reached just from half a step below it on. -/
theorem le_roundUnits_iff {num den m e j : Nat} (hden : 0 < den)
    (hround : roundUnits num den = some (m, e)) :
    2 * j * 2 ^ exponentFor (num / den) ≤ m * 2 ^ e ↔
      2 * (2 * j * 2 ^ exponentFor (num / den) * den) ≤
        2 * num + 2 ^ exponentFor (num / den) * den := by
  have hstep : 0 < den * 2 ^ exponentFor (num / den) := Nat.mul_pos hden (Nat.two_pow_pos _)
  rw [roundUnits_eq_some hden hround, Nat.mul_le_mul_right_iff (Nat.two_pow_pos _)]
  cases j with
  | zero => simp
  | succ j =>
    have hodd := lt_roundHalfEven_iff num hstep (k := 2 * j + 1) (by omega)
    have htwice : 2 * (2 * (j + 1) * 2 ^ exponentFor (num / den) * den) =
        (2 * (2 * j + 1) + 1) * (den * 2 ^ exponentFor (num / den)) +
          2 ^ exponentFor (num / den) * den := by ring
    rw [htwice]
    omega

/-- A multiple of two steps is not left behind until half a step above it. -/
theorem roundUnits_le_iff {num den m e j : Nat} (hden : 0 < den)
    (hround : roundUnits num den = some (m, e)) :
    m * 2 ^ e ≤ 2 * j * 2 ^ exponentFor (num / den) ↔
      2 * num ≤ 2 * (2 * j * 2 ^ exponentFor (num / den) * den) +
        2 ^ exponentFor (num / den) * den := by
  have hstep : 0 < den * 2 ^ exponentFor (num / den) := Nat.mul_pos hden (Nat.two_pow_pos _)
  rw [roundUnits_eq_some hden hround, Nat.mul_le_mul_right_iff (Nat.two_pow_pos _),
    roundHalfEven_le_iff num hstep (by omega)]
  have htwice : (2 * (2 * j) + 1) * (den * 2 ^ exponentFor (num / den)) =
      2 * (2 * j * 2 ^ exponentFor (num / den) * den) + 2 ^ exponentFor (num / den) * den := by
    ring
  rw [htwice]

section Whole

variable {x a b : Double} {n t u v N : Int} {den m e units : Nat}

/-- A magnitude of at least one is rounded at the power of two that its whole part asks for. -/
theorem exponentFor_of_le (h : unitsPerOne ≤ units) :
    exponentFor units = (units / unitsPerOne).log2 + 1022 := by
  have hexponent : 1022 + 52 = 1074 := rfl
  have hlarge : 53 ≤ 1074 := by decide
  unfold exponentFor unitsPerOne at *
  generalize 1074 = k at *
  simp only [Nat.pow_eq] at *
  have hone : 0 < 2 ^ k := Nat.two_pow_pos k
  have hsmall : ¬ units < 2 ^ 53 := by
    have hpow : 2 ^ 53 ≤ 2 ^ k := Nat.pow_le_pow_right (by decide) hlarge
    omega
  have hwhole : units / 2 ^ k ≠ 0 := (Nat.div_pos h hone).ne'
  have hlog : units.log2 = (units / 2 ^ k).log2 + k := by
    rw [Nat.log2_eq_iff (by omega)]
    refine ⟨?_, ?_⟩
    · calc 2 ^ ((units / 2 ^ k).log2 + k) = 2 ^ (units / 2 ^ k).log2 * 2 ^ k := Nat.pow_add ..
        _ ≤ units / 2 ^ k * 2 ^ k := Nat.mul_le_mul_right _ (Nat.log2_self_le hwhole)
        _ ≤ units := Nat.div_mul_le_self ..
    · calc units < (units / 2 ^ k + 1) * 2 ^ k := Nat.lt_mul_of_div_lt (Nat.lt_succ_self _) hone
        _ ≤ 2 ^ ((units / 2 ^ k).log2 + 1) * 2 ^ k :=
          Nat.mul_le_mul_right _ Nat.lt_log2_self
        _ = 2 ^ ((units / 2 ^ k).log2 + k + 1) := by ring
  rw [if_neg hsmall, hlog]
  omega

/-- A magnitude below one is rounded at a power of two of at most the last place below one. -/
theorem exponentFor_of_lt (h : units < unitsPerOne) : exponentFor units ≤ 1021 := by
  have hexponent : 1021 + 53 = 1074 := rfl
  unfold unitsPerOne at h
  generalize 1074 = k at *
  generalize 1021 = l at *
  rcases exponentFor_cases units with ⟨hzero, -⟩ | ⟨hlower, -⟩
  · omega
  · by_contra hgt
    have hpow : 2 ^ k ≤ 2 ^ (exponentFor units + 52) :=
      Nat.pow_le_pow_right (by decide) (by omega)
    simp only [Nat.pow_eq] at h
    omega

/-- The step of a magnitude of at least one is a `2 ^ 52`th of the power of two that its whole part
lies above. -/
theorem step_of_le (h : unitsPerOne ≤ units) :
    2 ^ exponentFor units * 2 ^ 52 = 2 ^ (units / unitsPerOne).log2 * unitsPerOne := by
  have hexponent : 1022 + 52 = 1074 := rfl
  rw [exponentFor_of_le h]
  generalize (units / unitsPerOne).log2 = l
  unfold unitsPerOne
  generalize 1074 = k at *
  generalize 1022 = j at *
  rw [← hexponent, Nat.pow_eq]
  ring

/-- The step of a magnitude below one is at most a `2 ^ 53`th of one. -/
theorem step_of_lt (h : units < unitsPerOne) : 2 ^ exponentFor units * 2 ^ 53 ≤ unitsPerOne := by
  have hexponent : 1021 + 53 = 1074 := rfl
  have hsmall := exponentFor_of_lt h
  unfold unitsPerOne
  generalize 1074 = k at *
  generalize 1021 = j at *
  calc 2 ^ exponentFor units * 2 ^ 53 = 2 ^ (exponentFor units + 53) := (Nat.pow_add ..).symm
    _ ≤ 2 ^ k := Nat.pow_le_pow_right (by decide) (by omega)

/-- The step of a magnitude below `2 ^ 51` is less than one. -/
theorem exponentFor_lt (h : units / unitsPerOne < 2 ^ 51) : exponentFor units < 1074 := by
  rcases Nat.lt_or_ge units unitsPerOne with hlt | hge
  · have hsmall := exponentFor_of_lt hlt
    omega
  · rw [exponentFor_of_le hge]
    by_cases hzero : units / unitsPerOne = 0
    · rw [hzero, Nat.log2_zero]
      decide
    · have hlog := (Nat.log2_lt hzero).mpr h
      omega

/-- One is a multiple of two steps of every magnitude that is not too large. -/
theorem exists_unitsPerOne_eq {e : Nat} (h : e < 1074) : ∃ c, unitsPerOne = 2 * c * 2 ^ e := by
  unfold unitsPerOne
  generalize 1074 = k at h
  refine ⟨2 ^ (k - e - 1), ?_⟩
  calc Nat.pow 2 k = 2 ^ (1 + (k - e - 1) + e) := by
        rw [Nat.pow_eq]
        congr 1
        omega
    _ = 2 * 2 ^ (k - e - 1) * 2 ^ e := by ring

/-- Two steps of a magnitude that is not too large are at most one. -/
theorem two_mul_step_le {e : Nat} (h : e < 1074) : 2 * 2 ^ e ≤ unitsPerOne := by
  obtain ⟨c, hc⟩ := exists_unitsPerOne_eq h
  have hone := unitsPerOne_pos
  have hpos : 0 < c := Nat.pos_of_ne_zero fun hzero => by simp [hc, hzero] at hone
  calc 2 * 2 ^ e ≤ c * (2 * 2 ^ e) := Nat.le_mul_of_pos_left _ hpos
    _ = unitsPerOne := by rw [hc]; ring

/-- A magnitude that reaches and leaves behind the multiples of a number by rounding reaches them
with its sign too, on either side of zero. -/
theorem le_signed_iff {M W step : Nat} (hden : 0 < den) (hstep : 0 < step) (hfits : 2 * step ≤ W)
    (hreach : ∀ k, k * W ≤ M ↔ 2 * (k * W * den) ≤ 2 * t.natAbs + step * den)
    (hleave : ∀ k, M ≤ k * W ↔ 2 * t.natAbs ≤ 2 * (k * W * den) + step * den) :
    N * W ≤ (if t < 0 then -(M : Int) else M) ↔ 2 * (N * W * den) ≤ 2 * t + step * den := by
  have hpos : (0 : Int) < step * den := by positivity
  rcases le_or_gt 0 t with ht | ht
  · obtain ⟨s, rfl⟩ := Int.eq_ofNat_of_zero_le ht
    rw [if_neg (by omega)]
    rcases le_or_gt 0 N with hN | hN
    · obtain ⟨k, rfl⟩ := Int.eq_ofNat_of_zero_le hN
      exact_mod_cast hreach k
    · -- No magnitude is below a negative number.
      have hbelow : N * W ≤ 0 := mul_nonpos_of_nonpos_of_nonneg hN.le (by omega)
      have hbelow' : N * W * den ≤ 0 := mul_nonpos_of_nonpos_of_nonneg hbelow (by omega)
      omega
  · obtain ⟨s, rfl⟩ := Int.exists_eq_neg_ofNat ht.le
    rw [if_pos ht]
    rw [Int.natAbs_neg, Int.natAbs_natCast] at hleave
    rcases le_or_gt N 0 with hN | hN
    · obtain ⟨k, rfl⟩ := Int.exists_eq_neg_ofNat hN
      have hk : (M : Int) ≤ k * W ↔
          2 * (s : Int) ≤ 2 * (k * W * den) + step * den := by exact_mod_cast hleave k
      rw [neg_mul, neg_mul, neg_le_neg_iff, hk]
      omega
    · -- A negative number does not come near to one.
      have hW : (2 : Int) * step ≤ W := by exact_mod_cast hfits
      have hfar : (W : Int) ≤ N * W := le_mul_of_one_le_left (by omega) hN
      have hfar' : 2 * step * (den : Int) ≤ N * W * den :=
        mul_le_mul_of_nonneg_right (hW.trans hfar) (by omega)
      have hassoc : (2 : Int) * step * den = 2 * (step * den) := by ring
      omega

/-- A magnitude with a sign reaches a whole number by rounding just from half a step below that
number on. -/
theorem le_units_iff (hden : 0 < den) (hround : roundUnits t.natAbs den = some (m, e))
    (hfine : exponentFor (t.natAbs / den) < 1074)
    (hu : u = if t < 0 then -((m * 2 ^ e : Nat) : Int) else (m * 2 ^ e : Nat)) :
    N * unitsPerOne ≤ u ↔
      2 * (N * unitsPerOne * den) ≤ 2 * t + 2 ^ exponentFor (t.natAbs / den) * den := by
  obtain ⟨c, hc⟩ := exists_unitsPerOne_eq hfine
  have hmul (k : Nat) : 2 * (k * c) * 2 ^ exponentFor (t.natAbs / den) = k * unitsPerOne := by
    rw [hc]
    ring
  have hreach (k : Nat) := le_roundUnits_iff hden hround (j := k * c)
  have hleave (k : Nat) := roundUnits_le_iff hden hround (j := k * c)
  simp only [hmul] at hreach hleave
  have hsigned := le_signed_iff (N := N) hden (Nat.two_pow_pos _) (two_mul_step_le hfine) hreach
    hleave
  rw [Nat.cast_pow, Nat.cast_ofNat] at hsigned
  rwa [hu]

/-- A whole number with less than 52 binary digits is not rounded. -/
theorem units?_ofInt? (hsmall : n.natAbs < 2 ^ 51) (h : ofInt? n = some x) :
    x.units? = some (n * unitsPerOne) := by
  obtain ⟨⟨m, e⟩, hround, rfl⟩ := Option.map_eq_some_iff.mp h
  rw [Int.natAbs_one] at hround
  have hwhole : n.natAbs * unitsPerOne / 1 / unitsPerOne = n.natAbs := by
    rw [Nat.div_one, Nat.mul_div_cancel _ unitsPerOne_pos]
  obtain ⟨c, hc⟩ := exists_unitsPerOne_eq (exponentFor_lt (hwhole.trans_lt hsmall))
  have hreach := le_roundUnits_iff Nat.one_pos hround (j := n.natAbs * c)
  have hleave := roundUnits_le_iff Nat.one_pos hround (j := n.natAbs * c)
  have hmultiple : 2 * (n.natAbs * c) * 2 ^ exponentFor (n.natAbs * unitsPerOne / 1) =
      n.natAbs * unitsPerOne := by
    conv_rhs => rw [hc]
    ring
  rw [hmultiple, Nat.mul_one] at hreach hleave
  have hexact : m * 2 ^ e = n.natAbs * unitsPerOne :=
    Nat.le_antisymm (hleave.mpr (by omega)) (hreach.mpr (by omega))
  rw [units?_finite, hexact, Option.some_inj]
  generalize unitsPerOne = W
  rcases le_or_gt 0 n with hn | hn
  · have hplus : decide (n < 0) = false := decide_eq_false (by omega)
    rw [hplus]
    have habs : (n.natAbs : Int) = n := by omega
    simp [habs]
  · have hminus : decide (n < 0) = true := decide_eq_true hn
    rw [hminus]
    have habs : (n.natAbs : Int) = -n := by omega
    simp [habs]

/-- The floor of a double is at least a whole number just when the double is. -/
theorem le_floor?_iff (hu : x.units? = some u) (h : x.floor? = some n) :
    N ≤ n ↔ N * unitsPerOne ≤ u := by
  rw [floor?, hu, Option.map_some] at h
  rw [← Option.some.inj h]
  exact Int.le_ediv_iff_mul_le (Int.natCast_pos.mpr unitsPerOne_pos)

/-- The floor of a rounded quotient reaches a whole number just when the quotient is at most half a
step below that number. -/
theorem le_floor?_ofQuotient?_iff {num : Int} (hden : 0 < den)
    (h : ofQuotient? num den = some x) (hfloor : x.floor? = some n)
    (hfine : exponentFor (num.natAbs * unitsPerOne / den) < 1074) :
    N ≤ n ↔ 2 * (N * unitsPerOne * den) ≤
      2 * (num * unitsPerOne) + 2 ^ exponentFor (num.natAbs * unitsPerOne / den) * den := by
  obtain ⟨⟨m, e⟩, hround, rfl⟩ := Option.map_eq_some_iff.mp h
  have hone := unitsPerOne_pos
  have hnatAbs : (num * unitsPerOne).natAbs = num.natAbs * unitsPerOne := by
    rw [Int.natAbs_mul, Int.natAbs_natCast]
  have hsign : num * unitsPerOne < 0 ↔ num < 0 :=
    ⟨fun hneg => neg_of_mul_neg_left hneg (by omega),
      fun hneg => mul_neg_of_neg_of_pos hneg (Int.natCast_pos.mpr hone)⟩
  have hplus : decide ((den : Int) < 0) = false := decide_eq_false (by omega)
  rw [Int.natAbs_natCast] at hround
  rw [le_floor?_iff (units?_finite ..) hfloor, hplus, Bool.bne_false]
  rw [← hnatAbs] at hround hfine ⊢
  refine le_units_iff hden hround hfine ?_
  simp only [hsign, decide_eq_true_eq]

/-- The floor of a rounded sum reaches a whole number just when the sum is at most half a step below
that number. -/
theorem le_floor?_add_iff (ha : a.units? = some u) (hb : b.units? = some v)
    (hfloor : (a.add b).floor? = some n) (hfine : exponentFor (u + v).natAbs < 1074) :
    N ≤ n ↔ 2 * (N * unitsPerOne) ≤ 2 * (u + v) + 2 ^ exponentFor (u + v).natAbs := by
  unfold add at hfloor
  simp only [ha, hb] at hfloor
  by_cases hzero : u + v = 0
  · rw [if_pos hzero] at hfloor
    rw [le_floor?_iff (units?_finite ..) hfloor, hzero]
    have hexponent : exponentFor (0 : Int).natAbs = 0 := rfl
    rw [hexponent]
    split <;> omega
  · rw [if_neg hzero, ofUnits] at hfloor
    split at hfloor
    · next m e hround =>
      rw [le_floor?_iff (units?_finite ..) hfloor]
      have hwhole := le_units_iff (N := N) Nat.one_pos hround (by rwa [Nat.div_one]) rfl
      rw [Nat.div_one, Nat.cast_one, mul_one, mul_one] at hwhole
      simpa only [decide_eq_true_eq] using hwhole
    · cases hfloor

end Whole

end Double

end VoucherDesk
