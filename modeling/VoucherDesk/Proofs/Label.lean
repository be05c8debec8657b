import Mathlib.Algebra.Order.Field.Rat
import Mathlib.Tactic.NormNum
import VoucherDesk.Label
import VoucherDesk.Proofs.Double.Order
import VoucherDesk.Proofs.Voucher.Numeral

/-!
# Numbers in labels

An abbreviated quantity is labelled with a number that has one decimal place and with the letter
of a unit. The unit is chosen by the quantity itself, but the number is the quotient rounded to a
double and then to tenths. Within a unit the number keeps the order, so it is out of the range of
the unit only next to an end of that range: just below a million and just below a thousand
millions the label is a thousand of the smaller unit.
-/

namespace VoucherDesk.Label

open Double FormField

/-- A label is read as a number with one decimal place before a letter. -/
def Shows (label : String) (x : Rat) (letter : Char) : Prop :=
  ∃ whole tenth, label.toList = whole ++ ['.', tenth, letter] ∧ whole ≠ [] ∧
    (∀ d ∈ whole ++ [tenth], d.isDigit = true) ∧ x = (decimal (whole ++ [tenth]) : Rat) / 10

/-- The numbers for which the unit with a letter is the right one. -/
def InUnit (x : Rat) : Char → Prop
  | 'k' => 10 ≤ x ∧ x < 1000
  | 'M' => 1 ≤ x ∧ x < 1000
  | 'B' => 1 ≤ x
  | _ => False

/-- A label shows a number for which its unit is the right one. -/
def Fits (label : String) : Prop := ∃ x letter, Shows label x letter ∧ InUnit x letter

/-- A label is read in one way only. -/
theorem Shows.unique {label : String} {x y : Rat} {c d : Char} (h : Shows label x c)
    (h' : Shows label y d) : x = y ∧ c = d := by
  obtain ⟨whole, tenth, hlabel, -, -, rfl⟩ := h
  obtain ⟨whole', tenth', hlabel', -, -, rfl⟩ := h'
  obtain ⟨rfl, htail⟩ := List.append_inj' (hlabel.symm.trans hlabel') rfl
  obtain ⟨rfl, rfl⟩ : tenth = tenth' ∧ c = d := by simpa using htail
  exact ⟨rfl, rfl⟩

/-- Whether a label fits is decided by the number and the letter that it shows. -/
theorem Shows.fits_iff {label : String} {x : Rat} {letter : Char} (h : Shows label x letter) :
    Fits label ↔ InUnit x letter := by
  constructor
  · rintro ⟨y, c, hshows, hin⟩
    obtain ⟨rfl, rfl⟩ := hshows.unique h
    exact hin
  · exact fun hin => ⟨x, letter, h, hin⟩

section Tenths

/-- The digits of a number of tenths, two of them at least. -/
def tenthsDigits (tenths : Nat) : List Char :=
  List.replicate (2 - (Nat.toDigits 10 tenths).length) '0' ++ Nat.toDigits 10 tenths

/-- A number of tenths in decimal. -/
def inTenths (tenths : Nat) : String :=
  String.ofList ((tenthsDigits tenths).take ((tenthsDigits tenths).length - 1)) ++ "." ++
    String.ofList ((tenthsDigits tenths).drop ((tenthsDigits tenths).length - 1))

/-- The tenths of the quotient of two whole numbers, which is rounded to a double first. -/
def tenths? (n divisor : Int) : Option Nat :=
  (ofQuotient? n divisor).map fun x => roundHalfEven (x.magnitude * 10) unitsPerOne

/-- The digits of a number of tenths denote it. -/
theorem decimal_tenthsDigits (tenths : Nat) : decimal (tenthsDigits tenths) = tenths := by
  have hzero : '0'.toNat - 48 = 0 := rfl
  rw [tenthsDigits, decimal, List.reverse_append, List.reverse_replicate, List.map_append,
    List.map_replicate, hzero, Nat.ofDigits_append_replicate_zero, ← decimal, decimal_toDigits]

/-- A number of tenths before a letter is read as what it is. -/
theorem shows_inTenths (tenths : Nat) (letter : Char) {suffix : String}
    (hsuffix : suffix.toList = [letter]) :
    Shows (inTenths tenths ++ suffix) ((tenths : Rat) / 10) letter := by
  have hlength : 2 ≤ (tenthsDigits tenths).length := by
    simp only [tenthsDigits, List.length_append, List.length_replicate]
    omega
  obtain ⟨whole, tenth, hdigits⟩ : ∃ whole tenth, tenthsDigits tenths = whole ++ [tenth] :=
    (List.eq_nil_or_concat' _).resolve_left (List.ne_nil_of_length_pos (by omega))
  have hwhole : (tenthsDigits tenths).length - 1 = whole.length := by simp [hdigits]
  refine ⟨whole, tenth, ?_, List.ne_nil_of_length_pos (by omega), fun d hd => ?_, ?_⟩
  · rw [inTenths, hwhole, hdigits, List.take_left, List.drop_left]
    simp [hsuffix]
  · rw [← hdigits, tenthsDigits, List.mem_append, List.mem_replicate] at hd
    rcases hd with ⟨-, rfl⟩ | hd
    · rfl
    · exact Nat.isDigit_of_mem_toDigits (by decide) (by decide) hd
  · rw [← hdigits, decimal_tenthsDigits]

/-- A double with one decimal place is its tenths. -/
theorem toFixed_one (m e : Nat) : (finite false m e).toFixed 1 =
    inTenths (roundHalfEven ((finite false m e).magnitude * 10) unitsPerOne) := rfl

/-- A quotient with one decimal place is its tenths. -/
theorem map_toFixed_one {n divisor : Int} (hn : 0 ≤ n) (hdivisor : 0 < divisor) :
    (ofQuotient? n divisor).map (fun x => x.toFixed 1) = (tenths? n divisor).map inTenths := by
  have hplus : (decide (n < 0) != decide (divisor < 0)) = false := by
    rw [decide_eq_false (by omega), decide_eq_false (by omega), Bool.bne_false]
  simp only [tenths?, ofQuotient?, Option.map_map, hplus]
  refine Option.map_congr fun p _ => ?_
  simp only [Function.comp_apply]
  rw [toFixed_one]

/-- A larger quantity does not have fewer tenths of the same unit. -/
theorem tenths?_mono {a b divisor : Int} {s t : Nat} (ha : 0 ≤ a) (hdivisor : 0 < divisor)
    (hab : a ≤ b) (hs : tenths? a divisor = some s) (ht : tenths? b divisor = some t) : s ≤ t := by
  obtain ⟨x, hx, rfl⟩ := Option.map_eq_some_iff.mp hs
  obtain ⟨y, hy, rfl⟩ := Option.map_eq_some_iff.mp ht
  obtain ⟨⟨m, e⟩, hround, rfl⟩ := Option.map_eq_some_iff.mp hx
  obtain ⟨⟨m', e'⟩, hround', rfl⟩ := Option.map_eq_some_iff.mp hy
  have hunits : a.natAbs * unitsPerOne ≤ b.natAbs * unitsPerOne :=
    Nat.mul_le_mul_right _ (by omega)
  have hmagnitude : m * 2 ^ e ≤ m' * 2 ^ e' :=
    roundUnits_mono (by omega) hunits hround hround'
  exact roundHalfEven_mono unitsPerOne_pos (Nat.mul_le_mul_right 10 hmagnitude)

end Tenths

section Units

variable {n : Int} {label : String}

/-- The label of a quantity in a unit that is chosen for it. -/
theorem count_of_unit {least divisor : Int} {letter : String}
    (hunit : units.find? (fun u => u.1 ≤ n) = some (least, divisor, letter)) (hn : 0 ≤ n)
    (hdivisor : 0 < divisor) :
    count n = .ok label ↔ ∃ tenths, tenths? n divisor = some tenths ∧
      label = inTenths tenths ++ letter := by
  have htext := map_toFixed_one hn hdivisor
  simp only [count, hunit, quotient, if_neg hdivisor.ne']
  cases hquotient : ofQuotient? n divisor with
  | none =>
    rw [hquotient, Option.map_none, eq_comm, Option.map_eq_none_iff] at htext
    simp [htext, Except.map]
  | some x =>
    rw [hquotient, Option.map_some, eq_comm] at htext
    obtain ⟨tenths, htenths, hx⟩ := Option.map_eq_some_iff.mp htext
    simp [htenths, hx, Except.map, eq_comm]

/-- The unit of a quantity below a million. -/
theorem unit_thousands (lower : 10000 ≤ n) (upper : n < 1000000) :
    units.find? (fun u => u.1 ≤ n) = some (10000, 1000, "k") := by
  have hbelow : n < 1000000000 := by omega
  simp [units, lower, upper, hbelow]

/-- The unit of a quantity below a thousand millions. -/
theorem unit_millions (lower : 1000000 ≤ n) (upper : n < 1000000000) :
    units.find? (fun u => u.1 ≤ n) = some (1000000, 1000000, "M") := by
  simp [units, lower, upper]

/-- The unit of the largest quantities. -/
theorem unit_billions (lower : 1000000000 ≤ n) :
    units.find? (fun u => u.1 ≤ n) = some (1000000000, 1000000000, "B") := by
  simp [units, lower]

/-- The label of a quantity of at least ten thousand: its tenths of the unit that it lies in, before
the letter of that unit. -/
inductive Abbreviates (n : Int) : String → Prop where
  | thousands (lower : 10000 ≤ n) (upper : n < 1000000) {tenths : Nat}
    (rounded : tenths? n 1000 = some tenths) : Abbreviates n (inTenths tenths ++ "k")
  | millions (lower : 1000000 ≤ n) (upper : n < 1000000000) {tenths : Nat}
    (rounded : tenths? n 1000000 = some tenths) : Abbreviates n (inTenths tenths ++ "M")
  | billions (lower : 1000000000 ≤ n) {tenths : Nat}
    (rounded : tenths? n 1000000000 = some tenths) : Abbreviates n (inTenths tenths ++ "B")

/-- A quantity of at least ten thousand has just such a label. -/
theorem count_eq_ok_iff (hn : 10000 ≤ n) : count n = .ok label ↔ Abbreviates n label := by
  have hpos : 0 ≤ n := by omega
  constructor
  · intro h
    rcases lt_or_ge n 1000000 with hk | hk
    · obtain ⟨tenths, rounded, rfl⟩ :=
        (count_of_unit (unit_thousands hn hk) hpos (by decide)).mp h
      exact .thousands hn hk rounded
    · rcases lt_or_ge n 1000000000 with hM | hM
      · obtain ⟨tenths, rounded, rfl⟩ :=
          (count_of_unit (unit_millions hk hM) hpos (by decide)).mp h
        exact .millions hk hM rounded
      · obtain ⟨tenths, rounded, rfl⟩ := (count_of_unit (unit_billions hM) hpos (by decide)).mp h
        exact .billions hM rounded
  · rintro (⟨lower, upper, rounded⟩ | ⟨lower, upper, rounded⟩ | ⟨lower, rounded⟩)
    · exact (count_of_unit (unit_thousands lower upper) hpos (by decide)).mpr ⟨_, rounded, rfl⟩
    · exact (count_of_unit (unit_millions lower upper) hpos (by decide)).mpr ⟨_, rounded, rfl⟩
    · exact (count_of_unit (unit_billions lower) hpos (by decide)).mpr ⟨_, rounded, rfl⟩

/-- A number of tenths is right for thousands from ten on and below a thousand. -/
theorem inUnit_thousands (tenths : Nat) :
    InUnit ((tenths : Rat) / 10) 'k' ↔ 100 ≤ tenths ∧ tenths < 10000 := by
  have hten : (0 : Rat) < 10 := by norm_num
  rw [InUnit, le_div_iff₀ hten, div_lt_iff₀ hten]
  norm_num

/-- A number of tenths is right for millions from one on and below a thousand. -/
theorem inUnit_millions (tenths : Nat) :
    InUnit ((tenths : Rat) / 10) 'M' ↔ 10 ≤ tenths ∧ tenths < 10000 := by
  have hten : (0 : Rat) < 10 := by norm_num
  rw [InUnit, le_div_iff₀ hten, div_lt_iff₀ hten]
  norm_num

/-- A number of tenths is right for thousands of millions from one on. -/
theorem inUnit_billions (tenths : Nat) : InUnit ((tenths : Rat) / 10) 'B' ↔ 10 ≤ tenths := by
  have hten : (0 : Rat) < 10 := by norm_num
  rw [InUnit, le_div_iff₀ hten]
  norm_num

/-- Between the ends of a range the tenths lie between those of the ends. Where they come to ten
thousand at the upper end, they do so just from the quantity on at which they first do. -/
theorem tenths_between {divisor first least last : Int} {s tenths : Nat} (hdivisor : 0 < divisor)
    (hpos : 0 ≤ first) (hfirst : tenths? first divisor = some s)
    (hbefore : tenths? (least - 1) divisor = some 9999)
    (hleast : tenths? least divisor = some 10000) (hleastpos : 0 ≤ least)
    (hlast : tenths? last divisor = some 10000)
    (hlower : first ≤ n) (hupper : n ≤ last) (hn : tenths? n divisor = some tenths) :
    s ≤ tenths ∧ tenths ≤ 10000 ∧ (tenths < 10000 ↔ n < least) := by
  have hnpos : 0 ≤ n := hpos.trans hlower
  refine ⟨tenths?_mono hpos hdivisor hlower hfirst hn,
    tenths?_mono hnpos hdivisor hupper hn hlast, fun hlt => ?_, fun hlt => ?_⟩
  · by_contra hge
    have hreached := tenths?_mono hleastpos hdivisor (not_lt.mp hge) hleast hn
    omega
  · have hbelow := tenths?_mono hnpos hdivisor (Int.le_sub_one_of_lt hlt) hn hbefore
    omega

/-- Below a million there are ten thousands at least, and a thousand of them just from 999950
on. -/
theorem tenths_thousands {tenths : Nat} (lower : 10000 ≤ n) (upper : n < 1000000)
    (rounded : tenths? n 1000 = some tenths) :
    100 ≤ tenths ∧ tenths ≤ 10000 ∧ (tenths < 10000 ↔ n < 999950) := by
  have hfirst : tenths? 10000 1000 = some 100 := by decide +kernel
  have hbefore : tenths? (999950 - 1) 1000 = some 9999 := by decide +kernel
  have hleast : tenths? 999950 1000 = some 10000 := by decide +kernel
  have hlast : tenths? 999999 1000 = some 10000 := by decide +kernel
  exact tenths_between (by decide) (by decide) hfirst hbefore hleast (by decide) hlast lower
    (Int.le_of_lt_add_one upper) rounded

/-- Below a thousand millions there is one million at least, and a thousand of them just from
999950000 on. -/
theorem tenths_millions {tenths : Nat} (lower : 1000000 ≤ n) (upper : n < 1000000000)
    (rounded : tenths? n 1000000 = some tenths) :
    10 ≤ tenths ∧ tenths ≤ 10000 ∧ (tenths < 10000 ↔ n < 999950000) := by
  have hfirst : tenths? 1000000 1000000 = some 10 := by decide +kernel
  have hbefore : tenths? (999950000 - 1) 1000000 = some 9999 := by decide +kernel
  have hleast : tenths? 999950000 1000000 = some 10000 := by decide +kernel
  have hlast : tenths? 999999999 1000000 = some 10000 := by decide +kernel
  exact tenths_between (by decide) (by decide) hfirst hbefore hleast (by decide) hlast lower
    (Int.le_of_lt_add_one upper) rounded

/-- The labels of a thousand thousands and of a thousand millions. -/
theorem inTenths_thousand : inTenths 10000 = "1000.0" := by decide +kernel

end Units

/-- The label of a quantity of at least ten thousand shows a number for which its unit is the right
one, but for two ranges: from 999950 to below a million the label is a thousand thousands, and from
999950000 to below a thousand millions it is a thousand millions. -/
theorem count_fits_iff (n : Int) (label : String) (hn : 10000 ≤ n) (h : count n = .ok label) :
    (Fits label ↔ ¬ (999950 ≤ n ∧ n < 1000000) ∧ ¬ (999950000 ≤ n ∧ n < 1000000000)) ∧
    (999950 ≤ n → n < 1000000 → label = "1000.0k") ∧
    (999950000 ≤ n → n < 1000000000 → label = "1000.0M") := by
  cases (count_eq_ok_iff hn).mp h with
  | @thousands lower upper tenths rounded =>
    obtain ⟨hten, hthousand, hbelow⟩ := tenths_thousands lower upper rounded
    rw [(shows_inTenths tenths 'k' rfl).fits_iff, inUnit_thousands]
    refine ⟨by omega, fun hleast _ => ?_, by omega⟩
    rw [show tenths = 10000 by omega, inTenths_thousand]
    rfl
  | @millions lower upper tenths rounded =>
    obtain ⟨hone, hthousand, hbelow⟩ := tenths_millions lower upper rounded
    rw [(shows_inTenths tenths 'M' rfl).fits_iff, inUnit_millions]
    refine ⟨by omega, by omega, fun hleast _ => ?_⟩
    rw [show tenths = 10000 by omega, inTenths_thousand]
    rfl
  | @billions lower tenths rounded =>
    have hfirst : tenths? 1000000000 1000000000 = some 10 := by decide +kernel
    have hone := tenths?_mono (by decide) (by decide) lower hfirst rounded
    rw [(shows_inTenths tenths 'B' rfl).fits_iff, inUnit_billions]
    exact ⟨by omega, by omega, by omega⟩

/-- The last quantity whose label fits before the thousands run out. -/
theorem fits_below_million : count 999949 = .ok "999.9k" ∧ Fits "999.9k" := by
  have htenths : tenths? 999949 1000 = some 9999 := by decide +kernel
  have hlabel : count 999949 = .ok "999.9k" :=
    (count_eq_ok_iff (by decide)).mpr (.thousands (by decide) (by decide) htenths)
  exact ⟨hlabel, ((count_fits_iff 999949 "999.9k" (by decide) hlabel).1).mpr (by decide)⟩

/-- The last quantity below a million is labelled as a thousand thousands. -/
theorem not_fits_last_thousands :
    (10000 : Int) ≤ 999999 ∧ count 999999 = .ok "1000.0k" ∧ ¬ Fits "1000.0k" := by
  have htenths : tenths? 999999 1000 = some 10000 := by decide +kernel
  have hlabel : count 999999 = .ok "1000.0k" :=
    (count_eq_ok_iff (by decide)).mpr (.thousands (by decide) (by decide) htenths)
  have hshows : Shows (inTenths 10000 ++ "k") ((10000 : Nat) / 10) 'k' :=
    shows_inTenths 10000 'k' rfl
  refine ⟨by decide, hlabel, fun hfits => ?_⟩
  have hin := (inUnit_thousands 10000).mp (hshows.fits_iff.mp (inTenths_thousand ▸ hfits))
  omega

end VoucherDesk.Label
