import Mathlib.Algebra.Order.Ring.Abs
import VoucherDesk.Calendar.Timestamp
import VoucherDesk.Proofs.Double.Rounding

/-!
# Timestamps and the epoch

Every moment has a timestamp, but for those without an offset on the first day of the calendar.
The timestamp is taken from a double, but rounding never carries it over the epoch: it is
negative just for the moments before.
-/

namespace VoucherDesk

/-- A month has at most 31 days. -/
theorem daysInMonth_le (year month : Nat) : daysInMonth year month ≤ 31 := by
  unfold daysInMonth
  split
  · split <;> omega
  · split <;> omega

/-- The months before one of the year have less days than a leap year. -/
theorem daysBeforeMonth_le (year : Nat) {month : Nat} (h : month ≤ 12) :
    daysBeforeMonth year month ≤ 341 := by
  have hsum (months : List Nat) :
      (months.map fun m => daysInMonth year (m + 1)).foldr (· + ·) 0 ≤ 31 * months.length := by
    induction months with
    | nil => exact Nat.zero_le _
    | cons m rest ih =>
      have hdays := daysInMonth_le year (m + 1)
      simp only [List.map_cons, List.foldr_cons, List.length_cons]
      omega
  have hmonths := hsum (List.range (month - 1))
  rw [List.length_range] at hmonths
  unfold daysBeforeMonth
  omega

/-- The days of the calendar are less than four million. -/
theorem Date.ordinal_lt (d : Date) : d.ordinal < 4000000 := by
  obtain ⟨-, hyear, -, hmonth, -, hday⟩ := d.isDate
  have hdays := daysInMonth_le d.year d.month
  have hmonths := daysBeforeMonth_le d.year hmonth
  unfold Date.ordinal daysBeforeYear
  dsimp only
  omega

namespace Moment

/-- A day has 86400 seconds. -/
theorem seconds_lt (c : Clock) : c.seconds < 86400 := by
  obtain ⟨hhour, hminute, hsecond, -⟩ := c.isClock
  unfold Clock.seconds
  omega

/-- The seconds from the epoch have less than 40 binary digits. -/
theorem natAbs_localSeconds_lt (t : Moment) : t.localSeconds.natAbs < 2 ^ 39 := by
  have hday := t.date.ordinal_lt
  have hseconds := seconds_lt t.clock
  unfold localSeconds epochOrdinal
  omega

/-- The seconds from the epoch have less than 40 binary digits, offset and fraction included. -/
theorem natAbs_epochMicros_div_lt (t : Moment) : t.epochMicros.natAbs / 1000000 < 2 ^ 39 := by
  have hday := t.date.ordinal_lt
  have hseconds := seconds_lt t.clock
  have hmicro := t.clock.isClock.2.2.2
  have hoffset : -86400000000 < (t.offset.map Offset.micros).getD 0 ∧
      (t.offset.map Offset.micros).getD 0 < 86400000000 := by
    cases t.offset with
    | none => decide
    | some o => exact o.isOffset
  unfold epochMicros localSeconds epochOrdinal
  omega

/-- The microseconds from the epoch have less than 60 binary digits. -/
theorem natAbs_epochMicros_lt (t : Moment) : t.epochMicros.natAbs < 2 ^ 60 := by
  have hseconds := t.natAbs_epochMicros_div_lt
  omega

/-- The double of the seconds since the epoch is a rounded quotient, or without an offset the sum of
the whole seconds and of the fraction, both of them rounded. -/
theorem epochDouble?_cases {t : Moment} {x : Double} (h : t.epochDouble? = some x) :
    (t.offset ≠ none ∧ Double.ofQuotient? t.epochMicros 1000000 = some x) ∨
      (t.offset = none ∧ ∃ whole part, Double.ofInt? t.localSeconds = some whole ∧
        Double.ofQuotient? t.clock.micro 1000000 = some part ∧ x = whole.add part) := by
  unfold epochDouble? at h
  cases hoffset : t.offset with
  | some o =>
    rw [hoffset] at h
    exact Or.inl ⟨Option.some_ne_none o, h⟩
  | none =>
    rw [hoffset] at h
    dsimp only at h
    split at h
    · cases h
    · obtain ⟨whole, hwhole, h⟩ := Option.bind_eq_some_iff.mp h
      obtain ⟨part, hpart, h⟩ := Option.bind_eq_some_iff.mp h
      exact Or.inr ⟨rfl, whole, part, hwhole, hpart, (Option.some.inj h).symm⟩

/-- A moment without an offset is before the epoch just when its whole seconds are. -/
theorem epochMicros_nonneg_iff {t : Moment} (h : t.offset = none) :
    0 ≤ t.epochMicros ↔ 0 ≤ t.localSeconds := by
  have hmicro := t.clock.isClock.2.2.2
  unfold epochMicros
  rw [h]
  simp only [Option.map_none, Option.getD_none]
  omega

/-- The whole seconds and the fraction of a moment, each rounded to a double, add up to a negative
number just when the whole seconds are negative. -/
theorem units_add_nonneg_iff (t : Moment) {whole part : Double} {u v : Int}
    (hwhole : Double.ofInt? t.localSeconds = some whole) (hu : whole.units? = some u)
    (hpart : Double.ofQuotient? t.clock.micro 1000000 = some part) (hv : part.units? = some v) :
    0 ≤ u + v ↔ 0 ≤ t.localSeconds := by
  have hmicro : t.clock.micro < 1000000 := t.clock.isClock.2.2.2
  have hvpos : 0 ≤ v :=
    (Double.ofQuotient?_nonneg_iff (by decide) (by decide) hpart hv).mpr (Int.natCast_nonneg _)
  have hupos : 0 ≤ u ↔ 0 ≤ t.localSeconds :=
    Double.ofQuotient?_nonneg_iff (by decide) (by decide) hwhole hu
  refine ⟨fun hsum => ?_, fun hlocal => by omega⟩
  by_contra hneg
  -- A second before the epoch outweighs the fraction, both of them rounded.
  obtain ⟨w, step, hw, -, habove, -, hstep⟩ := Double.ofQuotient?_error (by decide) hwhole
  obtain rfl := Option.some.inj (hu.symm.trans hw)
  obtain ⟨w, step', hw, -, habove', -, hstep'⟩ := Double.ofQuotient?_error (by decide) hpart
  obtain rfl := Option.some.inj (hv.symm.trans hw)
  have hunits : (2 ^ 20 : Int) ≤ Double.unitsPerOne := by exact_mod_cast Double.le_unitsPerOne
  generalize (Double.unitsPerOne : Int) = W at *
  have hfar : t.localSeconds * W ≤ -1 * W := mul_le_mul_of_nonneg_right (by omega) (by omega)
  have hfraction : (t.clock.micro : Int) * W ≤ 999999 * W :=
    mul_le_mul_of_nonneg_right (by omega) (by omega)
  rw [abs_of_neg (by omega), neg_mul] at hstep
  rw [abs_of_nonneg (Int.natCast_nonneg _)] at hstep'
  omega

/-- A timestamp is negative just for a moment before the epoch. -/
theorem timestamp?_nonneg_iff {t : Moment} {n : Int} (h : t.timestamp? = some n) :
    0 ≤ n ↔ 0 ≤ t.epochMicros := by
  obtain ⟨x, hx, hfloor⟩ := Option.bind_eq_some_iff.mp h
  rcases epochDouble?_cases hx with ⟨-, hx⟩ | ⟨hoffset, whole, part, hwhole, hpart, rfl⟩
  · obtain ⟨u, hu, hsign⟩ := Double.floor?_nonneg_iff hfloor
    rw [hsign]
    exact Double.ofQuotient?_nonneg_iff (by decide) (by decide) hx hu
  · obtain ⟨u, -, hu, -⟩ := Double.ofQuotient?_error (by decide) hwhole
    obtain ⟨v, -, hv, -⟩ := Double.ofQuotient?_error (by decide) hpart
    rw [Double.add_floor?_nonneg_iff hu hv hfloor, epochMicros_nonneg_iff hoffset]
    exact t.units_add_nonneg_iff hwhole hu hpart hv

/-- The whole seconds and the fraction of a moment, each rounded to a double, add up to a double
with a floor. -/
theorem exists_floor?_add (t : Moment) {whole part : Double}
    (hwhole : Double.ofInt? t.localSeconds = some whole)
    (hpart : Double.ofQuotient? t.clock.micro 1000000 = some part) :
    ∃ n, (whole.add part).floor? = some n := by
  have hmicro : t.clock.micro < 1000000 := t.clock.isClock.2.2.2
  have hlocal := t.natAbs_localSeconds_lt
  obtain ⟨u, step, hu, -, habove, hbelow, hstep⟩ := Double.ofQuotient?_error (by decide) hwhole
  obtain ⟨v, step', hv, -, habove', hbelow', hstep'⟩ :=
    Double.ofQuotient?_error (by decide) hpart
  refine Double.add_floor?_isSome hu hv ?_
  have hunits := Double.le_unitsPerOne
  generalize Double.unitsPerOne = W at *
  have hseconds : |t.localSeconds| * W ≤ 2 ^ 39 * W := by
    refine mul_le_mul_of_nonneg_right ?_ (Int.natCast_nonneg W)
    rw [Int.abs_eq_natAbs]
    exact_mod_cast hlocal.le
  have hfraction : |(t.clock.micro : Int)| * W ≤ 1000000 * W := by
    refine mul_le_mul_of_nonneg_right ?_ (Int.natCast_nonneg W)
    rw [abs_of_nonneg (Int.natCast_nonneg _)]
    omega
  have hsigned : |t.localSeconds * W| ≤ 2 ^ 39 * W := by
    rw [abs_mul, abs_of_nonneg (Int.natCast_nonneg W)]
    exact hseconds
  have hsigned' : |t.clock.micro * (W : Int)| ≤ 1000000 * W := by
    rw [abs_mul, abs_of_nonneg (Int.natCast_nonneg W)]
    exact hfraction
  rw [abs_le] at hsigned hsigned'
  omega

/-- Only moments without an offset on the first day of the calendar have no timestamp. -/
theorem timestamp?_eq_none_iff {t : Moment} :
    t.timestamp? = none ↔ t.offset = none ∧ t.date.ordinal = 1 := by
  unfold timestamp? epochDouble?
  cases hoffset : t.offset with
  | some o =>
    have hmicros : t.epochMicros.natAbs ≤ 2 ^ 63 := by
      have hlt := t.natAbs_epochMicros_lt
      omega
    obtain ⟨x, hx⟩ : ∃ x, Double.ofQuotient? t.epochMicros 1000000 = some x :=
      Double.ofQuotient?_isSome (by decide) hmicros
    obtain ⟨u, -, hu, -⟩ := Double.ofQuotient?_error (by decide) hx
    obtain ⟨n, hn⟩ := Double.exists_floor? hu
    simp [hx, hn]
  | none =>
    by_cases hfirst : t.date.ordinal = 1
    · simp [hfirst]
    · have hlocal : t.localSeconds.natAbs ≤ 2 ^ 63 := by
        have hlt := t.natAbs_localSeconds_lt
        omega
      have hmicro : (t.clock.micro : Int).natAbs ≤ 2 ^ 63 := by
        have hlt := t.clock.isClock.2.2.2
        omega
      obtain ⟨whole, hwhole⟩ : ∃ x, Double.ofInt? t.localSeconds = some x :=
        Double.ofQuotient?_isSome (by decide) hlocal
      obtain ⟨part, hpart⟩ : ∃ x, Double.ofQuotient? t.clock.micro 1000000 = some x :=
        Double.ofQuotient?_isSome (by decide) hmicro
      obtain ⟨n, hn⟩ := t.exists_floor?_add hwhole hpart
      simp [hfirst, hwhole, hpart, hn]

/-- The seconds since the epoch are rounded into the format. -/
theorem inFormat_epochDouble? {t : Moment} {x : Double} (h : t.epochDouble? = some x) :
    x.InFormat := by
  rcases epochDouble?_cases h with ⟨-, hx⟩ | ⟨-, whole, part, hwhole, hpart, rfl⟩
  · exact Double.inFormat_ofQuotient? (by decide) hx
  · exact (Double.inFormat_ofQuotient? (by decide) hwhole).add
      (Double.inFormat_ofQuotient? (by decide) hpart)

end Moment

end VoucherDesk
