import Mathlib.Data.Nat.Digits.Defs
import VoucherDesk.Proofs.Double.Value
import VoucherDesk.Proofs.Text.Blank
import VoucherDesk.Voucher.FormField

/-!
# What denotes a whole number

A whole number is entered as itself, as a double with a whole value, or as a numeral: a text with
an optional minus and ASCII digits, and blanks around them. Nothing else denotes one, and every
other entry is refused as such, as long as nothing has more digits than the limit allows.
-/

namespace VoucherDesk

namespace FormField

/-- The characters of a sign and digits. -/
def spelled (negative : Bool) (ds : List Char) : List Char := if negative then '-' :: ds else ds

/-- The number that decimal digits denote by their places. -/
def decimal (ds : List Char) : Nat := Nat.ofDigits 10 (ds.reverse.map fun d => d.toNat - 48)

/-- A text is a numeral: a sign and at least one digit, with blanks on both sides. -/
structure IsNumeral (s : String) (negative : Bool) (ds : List Char) : Prop where
  spelled : ∃ before after, s.toList = before ++ spelled negative ds ++ after ∧
    (∀ c ∈ before, Text.isBlank c = true) ∧ ∀ c ∈ after, Text.isBlank c = true
  ne_nil : ds ≠ []
  digits : ∀ d ∈ ds, d.isDigit = true

/-- An entry denotes a whole number. -/
inductive Denotes : Value → Int → Prop where
  | int (n : Int) : Denotes (.int n) n
  /-- A finite double does when it is that number. -/
  | double {x : Double} {n : Int} (value : x.value? = some (n : Rat)) : Denotes (.double x) n
  | numeral {s : String} {negative : Bool} {ds : List Char} (spells : IsNumeral s negative ds) :
    Denotes (.text s) (if negative then -(decimal ds : Int) else decimal ds)

/-- A value keeps to the limit on digits: no whole number in it has more, and neither has the
numeral that it may be. -/
structure KeepsDigitLimit (v : Value) : Prop where
  written : v.isWritten = true
  numeral : ∀ s negative ds, v = .text s → IsNumeral s negative ds → ds.length ≤ Text.maxDigits

/-- Digits are added up from the left to the number that they denote by their places. -/
theorem digitsValue_eq_decimal (ds : List Char) : Text.digitsValue ds = decimal ds := by
  induction ds using List.reverseRecOn with
  | nil => rfl
  | append_singleton ds d ih =>
    rw [decimal, List.reverse_concat, List.map_cons, Nat.ofDigits_cons, ← decimal, ← ih,
      Text.digitsValue, List.foldl_append, ← Text.digitsValue]
    simp only [List.foldl_cons, List.foldl_nil]
    omega

/-- The digits of a number denote it. -/
theorem decimal_toDigits (n : Nat) : decimal (Nat.toDigits 10 n) = n := by
  have hfold : Text.digitsValue (Nat.toDigits 10 n) =
      Nat.ofDigitChars 10 (Nat.toDigits 10 n) 0 := by
    simp only [Text.digitsValue, Nat.ofDigitChars, Nat.mul_comm]
    rfl
  rw [← digitsValue_eq_decimal, hfold, Nat.ofDigitChars_ten_toDigits]

/-- Characters are read as a sign and digits just when they spell them. -/
theorem numeral?_eq_some {cs ds : List Char} {negative : Bool} :
    numeral? cs = some (negative, ds) ↔
      cs = spelled negative ds ∧ ds ≠ [] ∧ ∀ d ∈ ds, d.isDigit = true := by
  simp only [numeral?, Option.ite_none_right_eq_some, Option.some.injEq, Prod.mk.injEq,
    Bool.and_eq_true, Bool.not_eq_true', List.isEmpty_eq_false_iff, List.all_eq_true]
  constructor
  · rintro ⟨⟨hne, hdigits⟩, rfl, rfl⟩
    refine ⟨?_, hne, hdigits⟩
    cases hminus : cs.head? == some '-' with
    | false => rfl
    | true =>
      obtain ⟨rest, rfl⟩ := List.head?_eq_some_iff.mp (beq_iff_eq.mp hminus)
      rfl
  · rintro ⟨rfl, hne, hdigits⟩
    have hminus : ((spelled negative ds).head? == some '-') = negative := by
      cases negative with
      | true => rfl
      | false =>
        obtain ⟨d, rest, rfl⟩ := List.exists_cons_of_ne_nil hne
        refine beq_eq_false_iff_ne.mpr fun hhead => ?_
        obtain rfl : d = '-' := Option.some.inj hhead
        exact absurd (hdigits '-' List.mem_cons_self) (by decide)
    have hdrop : (if negative = true then (spelled negative ds).drop 1 else spelled negative ds) =
        ds := by
      cases negative <;> rfl
    rw [hminus, hdrop]
    exact ⟨⟨hne, hdigits⟩, rfl, rfl⟩

/-- A text that is trimmed is read as a sign and digits just when it is their numeral. -/
theorem numeral?_trimChars {s : String} {negative : Bool} {ds : List Char} :
    numeral? (Text.trimChars s.toList) = some (negative, ds) ↔ IsNumeral s negative ds := by
  rw [numeral?_eq_some]
  constructor
  · rintro ⟨htrim, hne, hdigits⟩
    obtain ⟨before, after, hs, hbefore, hafter⟩ := Text.exists_trimBoth Text.isBlank s.toList
    rw [← Text.trimChars, htrim] at hs
    exact ⟨⟨before, after, hs, hbefore, hafter⟩, hne, hdigits⟩
  · rintro ⟨⟨before, after, hs, hbefore, hafter⟩, hne, hdigits⟩
    have hsolid : ∀ c ∈ spelled negative ds, Text.isBlank c = false := by
      have hds : ∀ d ∈ ds, Text.isBlank d = false :=
        fun d hd => Text.isBlank_of_isDigit (hdigits d hd)
      cases negative with
      | false => exact hds
      | true => exact List.forall_mem_cons.mpr ⟨by decide, hds⟩
    refine ⟨?_, hne, hdigits⟩
    rw [hs, Text.trimChars, Text.trimBoth_append hbefore hafter, Text.trimBoth_of_forall_not hsolid]

variable {field : String} {v : Value} {n : Int}

/-- What denotes a number is read as that number. -/
theorem int_of_denotes (hv : KeepsDigitLimit v) (h : Denotes v n) : int field v = .ok n := by
  cases h with
  | int => rfl
  | double value => simp only [int, Double.toInt?_eq_some.mpr value]
  | numeral spells =>
    have hshort := Nat.not_lt.mpr (hv.numeral _ _ _ rfl spells)
    simp only [int, numeral?_trimChars.mpr spells, if_neg hshort, digitsValue_eq_decimal]

/-- What is read as a number denotes it. -/
theorem denotes_of_int (h : int field v = .ok n) : Denotes v n := by
  unfold int at h
  split at h
  · cases h
    exact .int n
  · split at h
    · next x m hx =>
      cases h
      exact .double (Double.toInt?_eq_some.mp hx)
    · cases h
  · split at h
    · next s negative ds hs =>
      split at h
      · cases h
      · cases h
        rw [digitsValue_eq_decimal]
        exact .numeral (numeral?_trimChars.mp hs)
    · cases h
  · cases h

/-- What denotes no number is refused as no whole number. -/
theorem int_of_not_denotes (hv : KeepsDigitLimit v) (h : ∀ n, ¬ Denotes v n) :
    int field v = .error (.fault (.fieldFormat field v .wholeNumber)) := by
  have hrefuse : refuse field v .wholeNumber = .fault (.fieldFormat field v .wholeNumber) :=
    if_pos hv.written
  rw [← hrefuse]
  unfold int
  split
  · exact absurd (.int _) (h _)
  · split
    · next x m hx => exact absurd (.double (Double.toInt?_eq_some.mp hx)) (h m)
    · rfl
  · split
    · next s negative ds hs => exact absurd (.numeral (numeral?_trimChars.mp hs)) (h _)
    · rfl
  · rfl

/-- The decimal text of a number, with blanks on both sides, is a numeral of it. -/
theorem isNumeral_toString (n : Int) {before after : List Char}
    (hbefore : ∀ c ∈ before, Text.isBlank c = true) (hafter : ∀ c ∈ after, Text.isBlank c = true) :
    IsNumeral (String.ofList (before ++ (toString n).toList ++ after)) (decide (n < 0))
      (Nat.toDigits 10 n.natAbs) := by
  have htext : (toString n).toList = spelled (decide (n < 0)) (Nat.toDigits 10 n.natAbs) := by
    cases n with
    | ofNat m =>
      have hpos : ¬ Int.ofNat m < 0 := Int.not_lt.mpr (Int.natCast_nonneg m)
      rw [decide_eq_false hpos]
      exact String.toList_ofList
    | negSucc m =>
      rw [decide_eq_true (Int.negSucc_lt_zero m)]
      show ("-" ++ Nat.repr (m + 1)).toList = _
      rw [String.toList_append, Nat.repr_eq_ofList_toDigits, String.toList_ofList,
        String.toList_ofList]
      rfl
  refine ⟨⟨before, after, ?_, hbefore, hafter⟩, Nat.toDigits_ne_nil, fun d hd => ?_⟩
  · rw [String.toList_ofList, htext]
  · exact Nat.isDigit_of_mem_toDigits (by decide) (by decide) hd

/-- The decimal text of a number denotes it. -/
theorem denotes_toString (n : Int) : Denotes (.text (toString n)) n := by
  have hnumeral := @isNumeral_toString n [] [] (by simp) (by simp)
  rw [List.nil_append, List.append_nil, String.ofList_toList] at hnumeral
  have hdenotes := Denotes.numeral hnumeral
  rw [decimal_toDigits] at hdenotes
  have hnumber : (if decide (n < 0) then -(n.natAbs : Int) else n.natAbs) = n := by
    simp only [decide_eq_true_eq]
    split <;> omega
  rwa [hnumber] at hdenotes

/-- An entry denotes one number only. -/
theorem Denotes.unique {v : Value} {m n : Int} (h : Denotes v m) (h' : Denotes v n) : m = n := by
  cases h with
  | int => cases h' with | int => rfl
  | double value =>
    cases h' with
    | double value' => exact Int.cast_injective (Option.some.inj (value.symm.trans value'))
  | numeral spells =>
    cases h' with
    | numeral spells' =>
      have hread := (numeral?_trimChars.mpr spells).symm.trans (numeral?_trimChars.mpr spells')
      obtain ⟨rfl, rfl⟩ := Prod.mk.inj (Option.some.inj hread)
      rfl

/-- A numeral has no characters but blanks, a minus and digits. -/
theorem IsNumeral.mem_cases {s : String} {negative : Bool} {ds : List Char}
    (h : IsNumeral s negative ds) {c : Char} (hc : c ∈ s.toList) :
    Text.isBlank c = true ∨ c = '-' ∨ c.isDigit = true := by
  obtain ⟨before, after, hs, hbefore, hafter⟩ := h.spelled
  rw [hs, List.mem_append, List.mem_append] at hc
  rcases hc with (hc | hc) | hc
  · exact Or.inl (hbefore c hc)
  · have hsigned : c = '-' ∨ c ∈ ds := by
      cases negative with
      | false => exact Or.inr hc
      | true => exact List.mem_cons.mp hc
    exact Or.inr (hsigned.imp_right (h.digits c))
  · exact Or.inl (hafter c hc)

/-- The digits of a numeral are among its characters. -/
theorem IsNumeral.length_le {s : String} {negative : Bool} {ds : List Char}
    (h : IsNumeral s negative ds) : ds.length ≤ s.toList.length := by
  obtain ⟨before, after, hs, -, -⟩ := h.spelled
  have hspelled : ds.length ≤ (FormField.spelled negative ds).length := by
    cases negative with
    | false => exact Nat.le_refl _
    | true => exact Nat.le_succ _
  rw [hs, List.length_append, List.length_append]
  omega

/-- A text that is not longer than a numeral may be keeps to the limit on digits. -/
theorem keepsDigitLimit_text {s : String} (h : s.toList.length ≤ Text.maxDigits) :
    KeepsDigitLimit (.text s) := by
  refine ⟨rfl, ?_⟩
  rintro s' negative ds ⟨⟩ hnumeral
  exact hnumeral.length_le.trans h

/-- What is no text keeps to the limit on digits when it can be written. -/
theorem keepsDigitLimit_of_isWritten {v : Value} (hv : v.isWritten = true)
    (htext : ∀ s, v ≠ .text s) : KeepsDigitLimit v :=
  ⟨hv, fun s _ _ hs => absurd hs (htext s)⟩

/-- A whole number is read of exactly what denotes one, as the number that it denotes, and all else
is refused as no whole number; and the decimal text of a number, with blanks around it, denotes
that number. -/
theorem int_reads_what_denotes (field : String) :
    (∀ v, KeepsDigitLimit v →
      (∀ n, int field v = .ok n ↔ Denotes v n) ∧
        ((∀ n, ¬ Denotes v n) →
          int field v = .error (.fault (.fieldFormat field v .wholeNumber)))) ∧
      ∀ (n : Int) (before after : List Char), Value.isWrittenInt n = true →
        (∀ c ∈ before, Text.isBlank c = true) → (∀ c ∈ after, Text.isBlank c = true) →
          int field (.text (String.ofList (before ++ (toString n).toList ++ after))) = .ok n := by
  refine ⟨fun v hv => ⟨fun n => ⟨denotes_of_int, int_of_denotes hv⟩, int_of_not_denotes hv⟩, ?_⟩
  intro n before after hwritten hbefore hafter
  have hnumeral := isNumeral_toString n hbefore hafter
  have hshort : (Nat.toDigits 10 n.natAbs).length ≤ Text.maxDigits := of_decide_eq_true hwritten
  have hnumber : n = if decide (n < 0) then -(decimal (Nat.toDigits 10 n.natAbs) : Int)
      else decimal (Nat.toDigits 10 n.natAbs) := by
    rw [decimal_toDigits]
    simp only [decide_eq_true_eq]
    split <;> omega
  simp only [int, numeral?_trimChars.mpr hnumeral, if_neg (Nat.not_lt.mpr hshort),
    digitsValue_eq_decimal, ← hnumber]

/-- A padded numeral with leading zeros is read, a sign that is no minus is refused, and the text of
a number is read with any blanks around it. -/
theorem int_reads_padded_numeral :
    (KeepsDigitLimit (.text "\u2003-0042\n") ∧ Denotes (.text "\u2003-0042\n") (-42) ∧
      int "quota" (.text "\u2003-0042\n") = .ok (-42)) ∧
    (KeepsDigitLimit (.text "+5") ∧ (∀ n, ¬ Denotes (.text "+5") n) ∧
      int "quota" (.text "+5") = .error (.fault (.fieldFormat "quota" (.text "+5") .wholeNumber))) ∧
    (Value.isWrittenInt 500000 = true ∧ (∀ c ∈ [' ', '\t'], Text.isBlank c = true) ∧
      int "quota" (.text (String.ofList ([' ', '\t'] ++ (toString (500000 : Int)).toList ++ []))) =
        .ok 500000) := by
  obtain ⟨hall, htext⟩ := int_reads_what_denotes "quota"
  have hpadded : KeepsDigitLimit (.text "\u2003-0042\n") := keepsDigitLimit_text (by decide)
  have hplus : KeepsDigitLimit (.text "+5") := keepsDigitLimit_text (by decide)
  have hread : int "quota" (.text "\u2003-0042\n") = .ok (-42) := rfl
  have hnone (n : Int) : ¬ Denotes (.text "+5") n := by
    rw [← (hall _ hplus).1 n, show int "quota" (.text "+5") = .error _ from rfl]
    rintro ⟨⟩
  have hblank : ∀ c ∈ [' ', '\t'], Text.isBlank c = true := List.all_eq_true.mp rfl
  have hwritten : Value.isWrittenInt 500000 = true := by decide
  exact ⟨⟨hpadded, ((hall _ hpadded).1 (-42)).mp hread, hread⟩,
    ⟨hplus, hnone, (hall _ hplus).2 hnone⟩,
    ⟨hwritten, hblank, htext 500000 _ [] hwritten hblank (by simp)⟩⟩

end FormField

end VoucherDesk
