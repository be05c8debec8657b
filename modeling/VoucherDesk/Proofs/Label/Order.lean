import Mathlib.Tactic.Linarith
import VoucherDesk.Proofs.Label

/-!
# The order of labels

A label amounts to a number: to the whole number that it writes out, or to the number that it shows
in the unit of its letter. That number is near to the quantity, and a larger quantity never has a
label for less. Within a unit this is so because rounding keeps the order. Where the unit changes,
the labels below come to a thousand of the smaller unit at most, which is one of the larger unit.
-/

namespace VoucherDesk.Label

open Double FormField

/-- How many ones a unit with this letter is made of. -/
def onesOf? : Char → Option Nat
  | 'k' => some 1000
  | 'M' => some 1000000
  | 'B' => some 1000000000
  | _ => none

/-- A label amounts to the whole number that it writes out, or to the number that it shows before a
letter, in the unit with that letter. -/
inductive AmountsTo (label : String) : Rat → Prop where
  | whole {n : Int} (written : FormField.Denotes (.text label) n) : AmountsTo label n
  | abbreviated {x : Rat} {letter : Char} {ones : Nat} (shown : Shows label x letter)
    (unit : onesOf? letter = some ones) : AmountsTo label (x * ones)

/-- The unit in which a quantity of at least ten thousand is labelled. -/
def unitOf (n : Int) : Nat :=
  if n < 1000000 then 1000 else if n < 1000000000 then 1000000 else 1000000000

/-- How far a label may be from its quantity: not at all where it is written out, and else by half
of the decimal place that is shown and half of the last binary place of the quotient. -/
def tolerance (n : Int) : Rat :=
  if n < 10000 then 0 else (unitOf n : Rat) / 20 + n / 2 ^ 53

/-- The number to which a quantity is rounded for its label. -/
inductive RoundsTo (n : Int) : Rat → Prop where
  | whole (upper : n < 10000) : RoundsTo n n
  | abbreviated (lower : 10000 ≤ n) {tenths : Nat} (rounded : tenths? n (unitOf n) = some tenths) :
    RoundsTo n ((tenths : Rat) / 10 * unitOf n)

section Reading

variable {label : String} {n : Int}

/-- A number that is written out is not shown before a letter. -/
theorem not_shows_of_denotes {x : Rat} {letter : Char} (h : FormField.Denotes (.text label) n) :
    ¬ Shows label x letter := by
  rintro ⟨whole, tenth, hlabel, -⟩
  have hpoint : '.' ∈ label.toList := by simp [hlabel]
  cases h with
  | numeral spells =>
    have hcases := spells.mem_cases hpoint
    revert hcases
    decide

/-- A label amounts to one number only. -/
theorem AmountsTo.unique {x y : Rat} (h : AmountsTo label x) (h' : AmountsTo label y) :
    x = y := by
  cases h with
  | whole written =>
    cases h' with
    | whole written' => rw [written.unique written']
    | abbreviated shown => exact absurd shown (not_shows_of_denotes written)
  | abbreviated shown unit =>
    cases h' with
    | whole written => exact absurd shown (not_shows_of_denotes written)
    | abbreviated shown' unit' =>
      obtain ⟨rfl, rfl⟩ := shown.unique shown'
      rw [Option.some.inj (unit.symm.trans unit')]

/-- A quantity below ten thousand is written out. -/
theorem count_of_small (hn : n < 10000) (h : count n = .ok label) : label = toString n := by
  have hunit : units.find? (fun u => u.1 ≤ n) = none := by
    simp only [units, List.find?_eq_none, List.mem_cons, List.not_mem_nil, or_false,
      decide_eq_true_eq, forall_eq_or_imp, forall_eq]
    omega
  simp only [count, hunit] at h
  split at h
  · exact (Except.ok.inj h).symm
  · cases h

/-- The tenths of a unit before its letter amount to the number to which the quantity is rounded. -/
theorem exists_roundsTo_of_unit {ones tenths : Nat} (lower : 10000 ≤ n) (hunit : unitOf n = ones)
    (rounded : tenths? n ones = some tenths) (letter : Char) {suffix : String}
    (hletter : onesOf? letter = some ones) (hsuffix : suffix.toList = [letter]) :
    ∃ x, RoundsTo n x ∧ AmountsTo (inTenths tenths ++ suffix) x := by
  subst hunit
  exact ⟨_, .abbreviated lower rounded, .abbreviated (shows_inTenths tenths letter hsuffix) hletter⟩

/-- A label amounts to the number to which its quantity is rounded. -/
theorem exists_roundsTo (h : count n = .ok label) : ∃ x, RoundsTo n x ∧ AmountsTo label x := by
  rcases lt_or_ge n 10000 with hsmall | hlarge
  · obtain rfl := count_of_small hsmall h
    exact ⟨n, .whole hsmall, .whole (denotes_toString n)⟩
  · cases (count_eq_ok_iff hlarge).mp h with
    | thousands lower upper rounded =>
      have hunit : unitOf n = 1000 := if_pos upper
      exact exists_roundsTo_of_unit hlarge hunit rounded 'k' rfl rfl
    | millions lower upper rounded =>
      have hunit : unitOf n = 1000000 := by rw [unitOf, if_neg (by omega), if_pos upper]
      exact exists_roundsTo_of_unit hlarge hunit rounded 'M' rfl rfl
    | billions lower rounded =>
      have hunit : unitOf n = 1000000000 := by rw [unitOf, if_neg (by omega), if_neg (by omega)]
      exact exists_roundsTo_of_unit hlarge hunit rounded 'B' rfl rfl

end Reading

section Rounding

/-- The tenths of a quotient that is at least one differ from the exact ones by at most a half, and
by what the rounding to a double adds. -/
theorem tenths?_error {n divisor tenths : Nat} (hdivisor : 0 < divisor) (hn : divisor ≤ n)
    (h : tenths? n divisor = some tenths) :
    2 ^ 53 * (tenths * divisor) ≤ 10 * (2 ^ 53 * n) + (10 * n + 2 ^ 52 * divisor) ∧
      10 * (2 ^ 53 * n) ≤ 2 ^ 53 * (tenths * divisor) + (10 * n + 2 ^ 52 * divisor) := by
  obtain ⟨x, hx, rfl⟩ := Option.map_eq_some_iff.mp h
  obtain ⟨⟨m, e⟩, hround, rfl⟩ := Option.map_eq_some_iff.mp hx
  rw [Int.natAbs_natCast, Int.natAbs_natCast] at hround
  obtain ⟨step, hdouble, hdouble', hstep⟩ := roundUnits_error hdivisor hround
  obtain ⟨htenths, htenths'⟩ := roundHalfEven_error (m * 2 ^ e * 10) unitsPerOne_pos
  -- The quotient is at least one, so that the step of its double is small against it.
  have hlarge : 2 ^ 52 * divisor ≤ n * unitsPerOne := by
    rw [Nat.mul_comm]
    exact Nat.mul_le_mul hn (two_pow_le_unitsPerOne (by decide))
  rw [Nat.max_eq_left hlarge] at hstep
  have hone := unitsPerOne_pos
  simp only [magnitude, Nat.pow_eq]
  generalize roundHalfEven (m * 2 ^ e * 10) unitsPerOne = tenths at *
  generalize m * 2 ^ e = M at *
  generalize unitsPerOne = W at *
  have hscaled := Nat.mul_le_mul_right divisor htenths
  have hscaled' := Nat.mul_le_mul_right divisor htenths'
  constructor
  · refine Nat.le_of_mul_le_mul_right ?_ hone
    linarith
  · refine Nat.le_of_mul_le_mul_right ?_ hone
    linarith

/-- The unit of a quantity and the range in which it is the unit. -/
theorem unitOf_cases (n : Int) :
    (unitOf n = 1000 ∧ n < 1000000) ∨ (unitOf n = 1000000 ∧ 1000000 ≤ n ∧ n < 1000000000) ∨
      (unitOf n = 1000000000 ∧ 1000000000 ≤ n) := by
  unfold unitOf
  split_ifs <;> omega

variable {n : Int} {tenths : Nat}

/-- A quantity that is not written out is at least its unit. -/
theorem unitOf_le (hn : 10000 ≤ n) : 0 < unitOf n ∧ unitOf n ≤ n := by
  have hcases := unitOf_cases n
  omega

/-- A larger quantity has the same unit, or a thousand of its units are at most one of the larger
quantity. -/
theorem unitOf_eq_or_le {a b : Int} (hab : a ≤ b) :
    unitOf a = unitOf b ∨ (a < 1000000000 ∧ 1000 * unitOf a ≤ unitOf b) := by
  have ha := unitOf_cases a
  have hb := unitOf_cases b
  omega

/-- The tenths of a quantity come to ten thousand at least and to one unit at least, and to a
thousand units at most where there is a larger unit. -/
theorem tenths_range (hn : 10000 ≤ n) (rounded : tenths? n (unitOf n) = some tenths) :
    10 * 10000 ≤ tenths * unitOf n ∧ 10 ≤ tenths ∧ (n < 1000000000 → tenths ≤ 10 * 1000) := by
  obtain ⟨hpos, hle⟩ := unitOf_le hn
  obtain ⟨k, rfl⟩ := Int.eq_ofNat_of_zero_le (by omega : 0 ≤ n)
  obtain ⟨habove, hbelow⟩ := tenths?_error hpos (Int.ofNat_le.mp hle) rounded
  -- Every bound is a whole number of tenths, and the error is less than one of them.
  rcases unitOf_cases k with ⟨hunit, hrange⟩ | ⟨hunit, hrange⟩ | ⟨hunit, hrange⟩ <;>
    rw [hunit] at habove hbelow ⊢ <;> omega

/-- The tenths of a larger quantity do not come to less, whatever the units are. -/
theorem tenths_mul_unitOf_mono {a b : Int} {s t : Nat} (ha : 10000 ≤ a) (hab : a ≤ b)
    (hs : tenths? a (unitOf a) = some s) (ht : tenths? b (unitOf b) = some t) :
    s * unitOf a ≤ t * unitOf b := by
  have hb : 10000 ≤ b := ha.trans hab
  rcases unitOf_eq_or_le hab with hunit | ⟨hbelow, hunit⟩
  · rw [hunit] at hs ⊢
    have hpos : (0 : Int) < unitOf b := Int.natCast_pos.mpr (unitOf_le hb).1
    exact Nat.mul_le_mul_right _ (tenths?_mono (by omega) hpos hab hs ht)
  · -- One of the larger units lies between the two.
    obtain ⟨-, -, hupper⟩ := tenths_range ha hs
    obtain ⟨-, hlower, -⟩ := tenths_range hb ht
    calc s * unitOf a ≤ 10 * 1000 * unitOf a := Nat.mul_le_mul_right _ (hupper hbelow)
      _ = 10 * (1000 * unitOf a) := Nat.mul_assoc ..
      _ ≤ 10 * unitOf b := Nat.mul_le_mul_left 10 hunit
      _ ≤ t * unitOf b := Nat.mul_le_mul_right _ hlower

/-- The number to which a quantity is rounded is near to it. -/
theorem RoundsTo.near {x : Rat} (h : RoundsTo n x) : |x - n| ≤ tolerance n := by
  cases h with
  | whole upper => rw [tolerance, if_pos upper, sub_self, abs_zero]
  | @abbreviated lower tenths rounded =>
    obtain ⟨hpos, hle⟩ := unitOf_le lower
    obtain ⟨k, rfl⟩ := Int.eq_ofNat_of_zero_le (by omega : 0 ≤ n)
    obtain ⟨habove, hbelow⟩ := tenths?_error hpos (Int.ofNat_le.mp hle) rounded
    rw [tolerance, if_neg (by omega), Int.cast_natCast]
    generalize unitOf k = u at *
    have habove : 2 ^ 53 * (tenths * u : Rat) ≤ 10 * (2 ^ 53 * k) + (10 * k + 2 ^ 52 * u) := by
      exact_mod_cast habove
    have hbelow : 10 * (2 ^ 53 * (k : Rat)) ≤ 2 ^ 53 * (tenths * u) + (10 * k + 2 ^ 52 * u) := by
      exact_mod_cast hbelow
    rw [abs_le]
    constructor <;> linarith

/-- A larger quantity is not rounded to a smaller number. -/
theorem RoundsTo.mono {a b : Int} {x y : Rat} (hx : RoundsTo a x) (hy : RoundsTo b y)
    (hab : a ≤ b) : x ≤ y := by
  cases hx with
  | whole upper =>
    cases hy with
    | whole => exact_mod_cast hab
    | @abbreviated lower t ht =>
      -- Ten thousand lies between the two.
      have hle : (10 * 10000 : Rat) ≤ t * unitOf b := by exact_mod_cast (tenths_range lower ht).1
      have hupper : (a : Rat) ≤ 10000 := by exact_mod_cast upper.le
      linarith
  | @abbreviated lower s hs =>
    cases hy with
    | whole upper => omega
    | @abbreviated _ t ht =>
      have hle : (s * unitOf a : Rat) ≤ t * unitOf b := by
        exact_mod_cast tenths_mul_unitOf_mono lower hab hs ht
      linarith

end Rounding

/-- The label of each quantity amounts to a number near to it, and the label of a larger quantity
never amounts to less, whatever the units of the two are. -/
theorem labels_keep_order (a b : Int) (s t : String) (hab : a ≤ b) (hs : count a = .ok s)
    (ht : count b = .ok t) :
    (∃ x, AmountsTo s x ∧ |x - a| ≤ tolerance a) ∧
    (∃ y, AmountsTo t y ∧ |y - b| ≤ tolerance b) ∧
    ∀ x y, AmountsTo s x → AmountsTo t y → x ≤ y := by
  obtain ⟨x, hround, hamount⟩ := exists_roundsTo hs
  obtain ⟨y, hround', hamount'⟩ := exists_roundsTo ht
  refine ⟨⟨x, hamount, hround.near⟩, ⟨y, hamount', hround'.near⟩, fun x' y' hx hy => ?_⟩
  rw [hx.unique hamount, hy.unique hamount']
  exact hround.mono hround' hab

/-- The last label in thousands amounts to no more than the first one in millions. -/
theorem thousand_thousands_before_million :
    ((999999 : Int) ≤ 1000000 ∧ count 999999 = .ok "1000.0k" ∧ count 1000000 = .ok "1.0M") ∧
      (∃ x, AmountsTo "1000.0k" x) ∧ (∃ y, AmountsTo "1.0M" y) ∧
        ∀ x y, AmountsTo "1000.0k" x → AmountsTo "1.0M" y → x ≤ y := by
  have hthousands : tenths? 999999 1000 = some 10000 := by decide +kernel
  have hmillions : tenths? 1000000 1000000 = some 10 := by decide +kernel
  have hs : count 999999 = .ok "1000.0k" :=
    (count_eq_ok_iff (by decide)).mpr (.thousands (by decide) (by decide) hthousands)
  have ht : count 1000000 = .ok "1.0M" :=
    (count_eq_ok_iff (by decide)).mpr (.millions (by decide) (by decide) hmillions)
  obtain ⟨⟨x, hx, -⟩, ⟨y, hy, -⟩, horder⟩ :=
    labels_keep_order 999999 1000000 _ _ (by decide) hs ht
  exact ⟨⟨by decide, hs, ht⟩, ⟨x, hx⟩, ⟨y, hy⟩, horder⟩

end VoucherDesk.Label
