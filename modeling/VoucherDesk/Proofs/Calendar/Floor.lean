import Mathlib.Tactic.IntervalCases
import Mathlib.Tactic.Linarith
import Mathlib.Tactic.Ring
import VoucherDesk.Voucher.FormField
import VoucherDesk.Proofs.Calendar.Timestamp
import VoucherDesk.Proofs.Double.Order

/-!
# Timestamps and the floor

A timestamp is meant to be the second in which a moment lies, but it is the floor of a double. It is
that second, or else the next one: a moment is carried into the next second when it lacks no more
of that second than half a step of the doubles there. Far from the epoch the last microseconds of a
second are carried, and no moment within `2 ^ 34` seconds of it is.
-/

namespace VoucherDesk.Moment

/-- The moment lies in the second that begins so many seconds after the epoch. -/
def LiesIn (t : Moment) (second : Int) : Prop :=
  second * 1000000 ≤ t.epochMicros ∧ t.epochMicros < (second + 1) * 1000000

instance (t : Moment) (second : Int) : Decidable (t.LiesIn second) :=
  inferInstanceAs (Decidable (_ ∧ _))

/-- The microseconds that the moment lacks of the next second. -/
def lacking (t : Moment) : Int := 1000000 - t.epochMicros % 1000000

/-- What the moment lacks of the next second is at most half a step of the doubles whose whole part
has as many binary digits. -/
def IsCarried (t : Moment) : Prop :=
  t.lacking * 2 ^ 53 ≤ 1000000 * 2 ^ (t.epochMicros.natAbs / 1000000).log2

instance (t : Moment) : Decidable t.IsCarried := inferInstanceAs (Decidable (_ ≤ _))

section Arithmetic

open Double (unitsPerOne exponentFor)

/-- The whole part of a magnitude, told from the floor of the number and what is above it. -/
theorem natAbs_div_eq {s r : Int} {d : Nat} (hr : 0 ≤ r) (hd : r < d) :
    (s * d + r).natAbs / d = if 0 ≤ s ∨ r = 0 then s.natAbs else s.natAbs - 1 := by
  obtain ⟨r, rfl⟩ := Int.eq_ofNat_of_zero_le hr
  have hdpos : 0 < d := by omega
  rcases le_or_gt 0 s with hs | hs
  · obtain ⟨s, rfl⟩ := Int.eq_ofNat_of_zero_le hs
    rw [if_pos (Or.inl hs)]
    have hnatAbs : ((s : Int) * d + r).natAbs = s * d + r := by
      exact_mod_cast Int.natAbs_natCast (s * d + r)
    rw [hnatAbs, Int.natAbs_natCast]
    exact Nat.div_eq_of_lt_le (by omega) (by rw [Nat.succ_mul]; omega)
  · obtain ⟨s, rfl⟩ := Int.exists_eq_neg_ofNat hs.le
    obtain ⟨k, rfl⟩ : ∃ k, s = k + 1 := ⟨s - 1, by omega⟩
    have hsplit : (k + 1) * d = k * d + d := Nat.succ_mul k d
    have hnatAbs : (-((k + 1 : Nat) : Int) * d + r).natAbs = (k + 1) * d - r := by
      have hle : r ≤ (k + 1) * d := by omega
      have hcast : -((k + 1 : Nat) : Int) * d + r = -(((k + 1) * d - r : Nat) : Int) := by
        rw [Nat.cast_sub hle]
        push_cast
        ring
      rw [hcast, Int.natAbs_neg, Int.natAbs_natCast]
    rw [hnatAbs, Int.natAbs_neg, Int.natAbs_natCast]
    split
    · next hcase =>
      obtain rfl : r = 0 := by omega
      rw [Nat.sub_zero, Nat.mul_div_cancel _ hdpos]
    · next hcase =>
      rw [Nat.add_sub_cancel]
      exact Nat.div_eq_of_lt_le (by omega) (by omega)

/-- No count of microseconds lies so near to half a step of a whole number with less than 40 binary
digits that an error in the last place of a fraction could matter. -/
theorem far_from_half {k : Int} {b : Nat} (hk : 0 < k) (hb : b ≤ 38) :
    (k * 2 ^ 53 - 1000000 ≤ 1000000 * 2 ^ b → k * 2 ^ 53 ≤ 1000000 * 2 ^ b) ∧
      (k * 2 ^ 53 ≤ 1000000 * 2 ^ b → k * 2 ^ 53 + 1000000 ≤ 1000000 * 2 ^ b) := by
  interval_cases b <;> omega

/-- Twice a number of millionths of one, with an error in the last place of a fraction at most, is
at most a step just when the number is small against the power of two that the whole part lies
above. -/
theorem le_step_iff {units : Nat} {k x r : Int} (hk : 0 < k)
    (hsmall : units / unitsPerOne < 2 ^ 39) (habove : x ≤ 2 * (k * unitsPerOne) + r)
    (hbelow : 2 * (k * unitsPerOne) ≤ x + r) (hr : 2 ^ 52 * r ≤ 1000000 * unitsPerOne) :
    x ≤ 1000000 * 2 ^ exponentFor units ↔
      k * 2 ^ 53 ≤ 1000000 * 2 ^ (units / unitsPerOne).log2 := by
  have hone : (0 : Int) < unitsPerOne := Int.natCast_pos.mpr Double.unitsPerOne_pos
  rcases Nat.lt_or_ge units unitsPerOne with hlt | hge
  · -- Below one the step is too small, and so is the power of two.
    have hstep : (2 : Int) ^ exponentFor units * 2 ^ 53 ≤ unitsPerOne := by
      exact_mod_cast Double.step_of_lt hlt
    have hleast : 1 * (unitsPerOne : Int) ≤ k * unitsPerOne :=
      mul_le_mul_of_nonneg_right (by omega) hone.le
    rw [Nat.div_eq_of_lt hlt, Nat.log2_zero, pow_zero]
    generalize (2 : Int) ^ exponentFor units = step at *
    generalize (unitsPerOne : Int) = W at *
    omega
  · have hstep : (2 : Int) ^ exponentFor units * 2 ^ 52 =
        2 ^ (units / unitsPerOne).log2 * unitsPerOne := by exact_mod_cast Double.step_of_le hge
    have hbits : (units / unitsPerOne).log2 ≤ 38 := by
      have hwhole : units / unitsPerOne ≠ 0 := (Nat.div_pos hge Double.unitsPerOne_pos).ne'
      have hlog := (Nat.log2_lt hwhole).mpr hsmall
      omega
    obtain ⟨hfewer, hmore⟩ := far_from_half hk hbits
    generalize (units / unitsPerOne).log2 = l at *
    have hscale : 1000000 * 2 ^ l * (unitsPerOne : Int) =
        1000000 * (2 ^ exponentFor units * 2 ^ 52) := by rw [hstep, mul_assoc]
    have hscale' : k * 2 ^ 53 * (unitsPerOne : Int) = k * unitsPerOne * 2 ^ 53 := by ring
    constructor
    · intro h
      refine hfewer (le_of_mul_le_mul_right ?_ hone)
      rw [sub_mul, hscale, hscale']
      generalize (2 : Int) ^ exponentFor units = step at *
      generalize (unitsPerOne : Int) = W at *
      omega
    · intro h
      have hfar := mul_le_mul_of_nonneg_right (hmore h) hone.le
      rw [add_mul, hscale, hscale'] at hfar
      generalize (2 : Int) ^ exponentFor units = step at *
      generalize (unitsPerOne : Int) = W at *
      omega

/-- What is reached from half a step below it on is the last whole number before a quotient, or the
next one where that is near enough. -/
theorem eq_add_ite {n s y W d : Int} {P : Prop} [Decidable P]
    (hreach : ∀ N, N ≤ n ↔ 2 * (N * W) ≤ 2 * (s * W + y) + d) (hy : 0 ≤ y) (hyW : y ≤ W)
    (hd : 0 ≤ d) (hdW : d < 2 * W) (hnext : 2 * (W - y) ≤ d ↔ P) :
    n = s + if P then 1 else 0 := by
  have hlow : s ≤ n := (hreach s).mpr (by omega)
  have hhigh : ¬ s + 2 ≤ n := by
    rw [hreach, add_mul]
    omega
  have hone : s + 1 ≤ n ↔ P := by
    rw [hreach, ← hnext, add_mul]
    omega
  split
  · next hP =>
    have hle := hone.mpr hP
    omega
  · next hP =>
    have hgt := mt hone.mp hP
    omega

end Arithmetic

section Floor

open Double (unitsPerOne exponentFor)

variable {t : Moment} {n : Int}

theorem lacking_pos (t : Moment) : 0 < t.lacking := by
  unfold lacking
  omega

/-- The floor of the rounded seconds is the second of the moment, or the next if it is carried. -/
theorem floor?_of_quotient {x : Double} (hx : Double.ofQuotient? t.epochMicros 1000000 = some x)
    (hfloor : x.floor? = some n) :
    n = t.epochMicros / 1000000 + if t.IsCarried then 1 else 0 := by
  have hwhole : t.epochMicros.natAbs * unitsPerOne / 1000000 / unitsPerOne =
      t.epochMicros.natAbs / 1000000 := by
    rw [Nat.div_div_eq_div_mul, Nat.mul_div_mul_right _ _ Double.unitsPerOne_pos]
  have hsmall := t.natAbs_epochMicros_div_lt
  have hfine := Double.exponentFor_lt (hwhole.trans_lt (hsmall.trans (by decide)))
  have hreach (N : Int) := Double.le_floor?_ofQuotient?_iff (N := N)
    (by decide : 0 < 1000000) hx hfloor hfine
  have hcarried := le_step_iff t.lacking_pos (hwhole.trans_lt hsmall) (r := 0)
    (add_zero _).ge (add_zero _).ge (by omega)
  have hstep : (2 : Int) * 2 ^ exponentFor (t.epochMicros.natAbs * unitsPerOne / 1000000) ≤
      unitsPerOne := by exact_mod_cast Double.two_mul_step_le hfine
  have hpos : (0 : Int) < 2 ^ exponentFor (t.epochMicros.natAbs * unitsPerOne / 1000000) := by
    positivity
  rw [hwhole, ← IsCarried] at hcarried
  generalize (2 : Int) ^ exponentFor (t.epochMicros.natAbs * unitsPerOne / 1000000) = step at *
  generalize (unitsPerOne : Int) = W at *
  have hrest : 0 ≤ t.epochMicros % 1000000 * W := by
    exact mul_nonneg (by omega) (by omega)
  have hlacking : t.lacking * W = 1000000 * W - t.epochMicros % 1000000 * W := sub_mul ..
  have hpos' : 0 ≤ t.lacking * W := mul_nonneg t.lacking_pos.le (by omega)
  have hsplit : t.epochMicros * W =
      t.epochMicros / 1000000 * (1000000 * W) + t.epochMicros % 1000000 * W := by
    calc t.epochMicros * W
        = (1000000 * (t.epochMicros / 1000000) + t.epochMicros % 1000000) * W := by
          rw [Int.mul_ediv_add_emod]
      _ = _ := by ring
  refine eq_add_ite (W := 1000000 * W) (y := t.epochMicros % 1000000 * W)
    (d := 1000000 * step) (fun N => ?_) hrest (by omega) (by omega) (by omega) ?_
  · rw [hreach, hsplit, Nat.cast_ofNat, mul_comm step, mul_assoc, mul_comm W]
  · rw [← hcarried, hlacking]

/-- The fraction of a moment as a double lies within an error in its last place. -/
theorem units_part {part : Double} {v : Int}
    (hpart : Double.ofQuotient? t.clock.micro 1000000 = some part) (hv : part.units? = some v) :
    ∃ error, 2 * (1000000 * v) ≤ 2 * (t.clock.micro * unitsPerOne) + error ∧
      2 * (t.clock.micro * unitsPerOne) ≤ 2 * (1000000 * v) + error ∧
      2 ^ 52 * error ≤ 1000000 * unitsPerOne ∧ 0 ≤ v ∧ v < unitsPerOne ∧
      (v = 0 ↔ t.clock.micro = 0) := by
  have hmicro : t.clock.micro < 1000000 := t.clock.isClock.2.2.2
  obtain ⟨w, error, hw, hnonneg, habove, hbelow, herror⟩ :=
    Double.ofQuotient?_error (by decide) hpart
  obtain rfl := Option.some.inj (hv.symm.trans hw)
  have hone : (2 * 2 ^ 53 : Int) ≤ unitsPerOne := by
    exact_mod_cast Double.two_mul_step_le (by decide : 53 < 1074)
  rw [abs_of_nonneg (Int.natCast_nonneg _)] at herror
  generalize (unitsPerOne : Int) = W at *
  have hmost : (t.clock.micro : Int) * W ≤ 999999 * W :=
    mul_le_mul_of_nonneg_right (by omega) (by omega)
  refine ⟨error, by omega, by omega, by omega, hnonneg (Int.natCast_nonneg _), by omega, ?_⟩
  constructor
  · rintro rfl
    by_contra hpos
    have hleast : 1 * W ≤ (t.clock.micro : Int) * W :=
      mul_le_mul_of_nonneg_right (by omega) (by omega)
    omega
  · intro hzero
    rw [hzero] at habove herror hnonneg
    have hv0 := hnonneg (Int.le_refl _)
    omega

/-- Without an offset, the floor of the rounded whole seconds and the rounded fraction together is
the second of the moment, or the next if it is carried. -/
theorem floor?_of_sum {whole part : Double} (ho : t.offset = none)
    (hwhole : Double.ofInt? t.localSeconds = some whole)
    (hpart : Double.ofQuotient? t.clock.micro 1000000 = some part)
    (hfloor : (whole.add part).floor? = some n) :
    n = t.epochMicros / 1000000 + if t.IsCarried then 1 else 0 := by
  have hmicro : t.clock.micro < 1000000 := t.clock.isClock.2.2.2
  have hu := Double.units?_ofInt? (t.natAbs_localSeconds_lt.trans (by decide)) hwhole
  obtain ⟨v, -, hv, -⟩ := Double.ofQuotient?_error (by decide) hpart
  obtain ⟨error, habove, hbelow, herror, hv0, hvW, hzero⟩ := units_part hpart hv
  have hmicros : t.epochMicros = t.localSeconds * 1000000 + t.clock.micro := by
    simp [epochMicros, ho]
  have hsecond : t.epochMicros / 1000000 = t.localSeconds := by omega
  have hrest : t.lacking = 1000000 - t.clock.micro := by
    unfold lacking
    omega
  have hparts : (t.localSeconds * unitsPerOne + v).natAbs / unitsPerOne =
      t.epochMicros.natAbs / 1000000 := by
    have hdecimal := natAbs_div_eq (s := t.localSeconds) (r := t.clock.micro) (d := 1000000)
      (Int.natCast_nonneg _) (by exact_mod_cast hmicro)
    rw [Nat.cast_ofNat] at hdecimal
    rw [natAbs_div_eq hv0 hvW, hmicros, hdecimal]
    simp only [hzero, Int.natCast_eq_zero]
  have hsmall := t.natAbs_epochMicros_div_lt
  have hfine := Double.exponentFor_lt (hparts.trans_lt (hsmall.trans (by decide)))
  have hreach (N : Int) := Double.le_floor?_add_iff (N := N) hu hv hfloor hfine
  have hlacking : t.lacking * unitsPerOne =
      1000000 * unitsPerOne - t.clock.micro * unitsPerOne := by rw [hrest, sub_mul]
  have hcarried := le_step_iff t.lacking_pos (hparts.trans_lt hsmall) (r := error)
    (x := 2 * (1000000 * (unitsPerOne - v))) (by omega) (by omega) herror
  have hstep : (2 : Int) * 2 ^ exponentFor (t.localSeconds * unitsPerOne + v).natAbs ≤
      unitsPerOne := by exact_mod_cast Double.two_mul_step_le hfine
  have hpos : (0 : Int) < 2 ^ exponentFor (t.localSeconds * unitsPerOne + v).natAbs := by
    positivity
  rw [hparts, ← IsCarried] at hcarried
  rw [hsecond]
  refine eq_add_ite hreach hv0 hvW.le hpos.le (by omega) ?_
  rw [← hcarried]
  omega

/-- A timestamp is the second of its moment, or the next if the moment is carried. -/
theorem eq_of_timestamp? (h : t.timestamp? = some n) :
    n = t.epochMicros / 1000000 + if t.IsCarried then 1 else 0 := by
  obtain ⟨x, hx, hfloor⟩ := Option.bind_eq_some_iff.mp h
  rcases epochDouble?_cases hx with ⟨-, hx⟩ | ⟨ho, whole, part, hwhole, hpart, rfl⟩
  · exact floor?_of_quotient hx hfloor
  · exact floor?_of_sum ho hwhole hpart hfloor

/-- A moment lies in the second that is the floor of its seconds. -/
theorem liesIn_iff : t.LiesIn n ↔ n = t.epochMicros / 1000000 := by
  unfold LiesIn
  omega

/-- No moment within `2 ^ 34` seconds of the epoch is carried. -/
theorem not_isCarried_of_near (h : t.epochMicros.natAbs < 2 ^ 34 * 1000000) : ¬ t.IsCarried := by
  have hlacking := t.lacking_pos
  have hpower : 2 ^ (t.epochMicros.natAbs / 1000000).log2 ≤ 2 ^ 33 := by
    refine Nat.pow_le_pow_right (by decide) ?_
    by_cases hzero : t.epochMicros.natAbs / 1000000 = 0
    · rw [hzero, Nat.log2_zero]
      decide
    · have hlog : (t.epochMicros.natAbs / 1000000).log2 < 34 :=
        (Nat.log2_lt hzero).mpr (by omega)
      omega
  have hpower' : (2 : Int) ^ (t.epochMicros.natAbs / 1000000).log2 ≤ 2 ^ 33 := by
    exact_mod_cast hpower
  unfold IsCarried
  omega

/-- An entry that is a moment gives its timestamp. -/
theorem timestamp_moment {field : String} :
    FormField.timestamp field (.moment t) = .ok n ↔ t.timestamp? = some n := by
  simp only [FormField.timestamp, FormField.isBlank, Bool.false_eq_true, ite_false]
  cases t.timestamp? <;> simp

/-- Wherever the moment is entered, the timestamp that it gives is the second in which it lies. -/
def Floors (t : Moment) : Prop :=
  ∀ field n, FormField.timestamp field (.moment t) = .ok n → t.LiesIn n

/-- A moment gives the second in which it lies just when it is not carried, or gives no timestamp at
all. One that is carried gives the next second, and none is within `2 ^ 34` seconds of the
epoch. -/
theorem floors_iff (t : Moment) :
    (t.Floors ↔ (t.offset = none ∧ t.date.ordinal = 1) ∨ ¬ t.IsCarried) ∧
      (∀ field n, FormField.timestamp field (.moment t) = .ok n → t.IsCarried →
        t.LiesIn (n - 1)) ∧
      (t.epochMicros.natAbs < 2 ^ 34 * 1000000 → ¬ t.IsCarried) := by
  refine ⟨⟨fun hfloors => ?_, fun hcases field n h => ?_⟩, fun field n h hcarried => ?_,
    not_isCarried_of_near⟩
  · rw [← timestamp?_eq_none_iff]
    cases hn : t.timestamp? with
    | none => exact Or.inl rfl
    | some n =>
      refine Or.inr fun hcarried => ?_
      have hsecond := liesIn_iff.mp (hfloors "valid_from" n (timestamp_moment.mpr hn))
      rw [eq_of_timestamp? hn, if_pos hcarried] at hsecond
      omega
  · have hn := timestamp_moment.mp h
    rcases hcases with hnone | hnot
    · rw [timestamp?_eq_none_iff.mpr hnone] at hn
      cases hn
    · rw [liesIn_iff, eq_of_timestamp? hn, if_neg hnot, add_zero]
  · rw [liesIn_iff, eq_of_timestamp? (timestamp_moment.mp h), if_pos hcarried, add_sub_cancel_right]

/-- The last microsecond of the calendar. -/
def lastMicrosecond : Moment := ⟨⟨9999, 12, 31, by decide⟩, ⟨23, 59, 59, 999999, by decide⟩, none⟩

/-- The last microsecond of the calendar gives the first second after the calendar. -/
theorem not_floors_last_microsecond : ¬ lastMicrosecond.Floors := by
  intro hfloors
  have htimestamp : lastMicrosecond.timestamp? = some 253402300800 := by decide +kernel
  have hsecond := hfloors "valid_from" _ (timestamp_moment.mpr htimestamp)
  exact absurd hsecond (by decide)

end Floor

end VoucherDesk.Moment
