import VoucherDesk.Voucher.Draft
import VoucherDesk.Proofs.Calendar.Timestamp
import VoucherDesk.Proofs.Failure
import VoucherDesk.Proofs.Text.Blank
import VoucherDesk.Proofs.Voucher.Draft

/-!
# How drafts are refused

A draft is refused as the first of its entries that is, in the order in which they are checked.
Most refusals are faults. The others come from entries that are too extreme to be handled: a
numeral that is too long to be read, a value to be refused or to be written that holds a number
too long to be written, and a moment that is too early to have a timestamp.
-/

namespace VoucherDesk

namespace FormField

/-- Whether an entry is too extreme for a whole number with a rule: a numeral too long to be read,
or a value that is refused and holds a number too long to be written. -/
def IsExtreme (v : Value) (ok : Int → Bool) : Prop :=
  (∃ s negative ds, v = .text s ∧ numeral? (Text.trimChars s.toList) = some (negative, ds) ∧
    Text.maxDigits < ds.length) ∨
  (v.isWritten = false ∧ ∀ n, v = .int n → ok n = false)

variable {field : String} {rule : FieldRule} {ok : Int → Bool}

/-- A refusal is a fault just when its message can be written. -/
theorem refuse_isValidation {v : Value} :
    (refuse field v rule).IsValidation ↔ v.isWritten = true := by
  unfold refuse
  cases v.isWritten with
  | true => exact iff_of_true ⟨_, rfl, rfl⟩ rfl
  | false => exact iff_of_false (by simp [Failure.IsValidation]) Bool.false_ne_true

/-- A number that is read is refused, if at all, by its rule. -/
theorem intWhere_failsOnly_of_ok {v : Value} {n : Int} (h : int field v = .ok n) :
    FailsOnly Failure.IsValidation (intWhere field v rule ok) ↔
      ¬ (v.isWritten = false ∧ ok n = false) := by
  have hruled : intWhere field v rule ok =
      if ok n then .ok n else .error (refuse field v rule) := by
    unfold intWhere
    rw [h]
    rfl
  rw [hruled]
  cases ok n with
  | true => exact iff_of_true (failsOnly_ok n) (by simp)
  | false =>
    refine failsOnly_error.trans (refuse_isValidation.trans ?_)
    simp

/-- An entry that is no number is refused before its rule is looked at. -/
theorem intWhere_failsOnly_of_error {v : Value} {e : Failure} (h : int field v = .error e) :
    FailsOnly Failure.IsValidation (intWhere field v rule ok) ↔ e.IsValidation := by
  have hrefused : intWhere field v rule ok = .error e := by
    unfold intWhere
    rw [h]
    rfl
  rw [hrefused]
  exact failsOnly_error

/-- Values that are no texts are extreme as they are written. -/
theorem isExtreme_iff {v : Value} (h : ∀ s, v ≠ .text s) :
    IsExtreme v ok ↔ v.isWritten = false ∧ ∀ n, v = .int n → ok n = false :=
  or_iff_right fun ⟨s, _, _, hs, _⟩ => h s hs

/-- Texts are extreme as numerals. -/
theorem isExtreme_text {s : String} :
    IsExtreme (.text s) ok ↔ ∃ negative ds,
      numeral? (Text.trimChars s.toList) = some (negative, ds) ∧ Text.maxDigits < ds.length := by
  constructor
  · rintro (⟨s', negative, ds, ⟨⟩, hlong⟩ | ⟨hwritten, -⟩)
    · exact ⟨negative, ds, hlong⟩
    · cases hwritten
  · rintro ⟨negative, ds, hlong⟩
    exact Or.inl ⟨s, negative, ds, rfl, hlong⟩

/-- A ruled number is read or refused with a fault, unless its entry is too extreme. -/
theorem intWhere_failsOnly {v : Value} :
    FailsOnly Failure.IsValidation (intWhere field v rule ok) ↔ ¬ IsExtreme v ok := by
  -- What is neither a number nor a text is refused in the same way, whatever it is.
  have hother (w : Value) (hint : int field w = .error (refuse field w .wholeNumber))
      (htext : ∀ s, w ≠ .text s) (hnumber : ∀ n, w ≠ .int n) :
      FailsOnly Failure.IsValidation (intWhere field w rule ok) ↔ ¬ IsExtreme w ok := by
    rw [intWhere_failsOnly_of_error hint, refuse_isValidation, isExtreme_iff htext]
    simp [hnumber]
  cases v with
  | int n =>
    rw [intWhere_failsOnly_of_ok rfl, isExtreme_iff (by simp)]
    simp
  | double x =>
    have hplain : ¬ IsExtreme (.double x) ok := by
      rw [isExtreme_iff (by simp)]
      simp [Value.isWritten]
    cases hx : x.toInt? with
    | some n =>
      have hread : int field (.double x) = .ok n := by simp [int, hx]
      rw [intWhere_failsOnly_of_ok hread]
      exact iff_of_true (by simp [Value.isWritten]) hplain
    | none =>
      exact hother _ (by simp [int, hx]) (by simp) (by simp)
  | text s =>
    rw [isExtreme_text]
    cases hs : numeral? (Text.trimChars s.toList) with
    | none =>
      have hrefused : int field (.text s) = .error (refuse field (.text s) .wholeNumber) := by
        simp [int, hs]
      rw [intWhere_failsOnly_of_error hrefused, refuse_isValidation]
      exact iff_of_true rfl (by simp)
    | some numeral =>
      obtain ⟨negative, ds⟩ := numeral
      by_cases hlong : Text.maxDigits < ds.length
      · have hrefused : int field (.text s) = .error (.digitLimit ds.length) := by
          simp [int, hs, hlong]
        rw [intWhere_failsOnly_of_error hrefused]
        exact iff_of_false (by simp [Failure.IsValidation]) fun h => h ⟨negative, ds, rfl, hlong⟩
      · obtain ⟨n, hread⟩ : ∃ n, int field (.text s) = .ok n := by simp [int, hs, hlong]
        rw [intWhere_failsOnly_of_ok hread]
        refine iff_of_true (by simp [Value.isWritten]) ?_
        rintro ⟨negative', ds', ⟨⟩, hlong'⟩
        exact hlong hlong'
  | null => exact hother _ rfl (by simp) (by simp)
  | bool b => exact hother _ rfl (by simp) (by simp)
  | moment t => exact hother _ rfl (by simp) (by simp)
  | list items => exact hother _ rfl (by simp) (by simp)
  | record fields => exact hother _ rfl (by simp) (by simp)

/-- Nothing is left of blanks. -/
theorem trimChars_of_isBlankText {s : String} (h : Text.isBlankText s = true) :
    Text.trimChars s.toList = [] :=
  Text.trimBoth_eq_nil_iff.mpr (List.all_eq_true.mp h)

/-- Blank entries are not too extreme for a number. -/
theorem not_isExtreme_of_isBlank {v : Value} (h : isBlank v = true) : ¬ IsExtreme v ok := by
  cases v with
  | null =>
    rw [isExtreme_iff (by simp)]
    simp [Value.isWritten]
  | text s =>
    rw [isExtreme_text, trimChars_of_isBlankText h]
    rintro ⟨negative, ds, hnumeral, -⟩
    cases hnumeral
  | _ => cases h

/-- Whether a value is a moment that is too early to have a timestamp. -/
def IsTooEarly (v : Value) : Prop := ∃ t, v = .moment t ∧ t.offset = none ∧ t.date.ordinal = 1

/-- A timestamp is read or refused with a fault, unless its entry is too extreme for a number or is
a moment that is too early. -/
theorem timestamp_failsOnly {v : Value} :
    FailsOnly Failure.IsValidation (timestamp field v) ↔
      ¬ (IsTooEarly v ∨ IsExtreme v (0 ≤ ·)) := by
  unfold timestamp
  by_cases hblank : isBlank v = true
  · rw [if_pos hblank]
    refine iff_of_true (failsOnly_ok 0) ?_
    rintro (⟨t, rfl, -⟩ | hextreme)
    · cases hblank
    · exact not_isExtreme_of_isBlank hblank hextreme
  · rw [if_neg hblank]
    split
    · next t =>
      have hplain : ¬ IsExtreme (.moment t) (0 ≤ ·) := by
        rw [isExtreme_iff (by simp)]
        simp [Value.isWritten]
      have hearly : IsTooEarly (.moment t) ↔ t.timestamp? = none := by
        simp [IsTooEarly, Moment.timestamp?_eq_none_iff]
      rw [hearly, or_iff_left hplain]
      cases t.timestamp? with
      | some n => exact iff_of_true (failsOnly_ok n) (by simp)
      | none => exact iff_of_false (by simp [failsOnly_error, Failure.IsValidation]) (by simp)
    · next hother =>
      have hearly : ¬ IsTooEarly v := fun ⟨t, ht, _⟩ => hother t ht
      rw [intWhere_failsOnly, or_iff_right hearly]

end FormField

namespace Draft

/-- An entry of a draft that is checked. -/
inductive Entry where
  /-- A whole number that has to satisfy a rule. -/
  | number (field : String) (rule : FieldRule) (ok : Int → Bool) (v : Value)
  /-- A use limit. -/
  | uses (v : Value)
  /-- A name. -/
  | name (v : Value)
  /-- An end of the window. -/
  | bound (field : String) (v : Value)

namespace Entry

/-- Checks an entry. -/
def check : Entry → Except Failure Unit
  | number field rule ok v => (FormField.intWhere field v rule ok).map fun _ => ()
  | uses v => ((useLimit v).map VoucherKind.gift).map fun _ => ()
  | name v => (Draft.name v).map fun _ => ()
  | bound field v => (FormField.timestamp field v).map fun _ => ()

/-- Whether an entry is too extreme to be handled. -/
def IsExtreme : Entry → Prop
  | number _ _ ok v => FormField.IsExtreme v ok
  | uses v => FormField.IsExtreme v fun n => n = unlimitedUses ∨ 1 ≤ n
  | name v => v.isWritten = false
  | bound _ v => FormField.IsTooEarly v ∨ FormField.IsExtreme v (0 ≤ ·)

/-- An entry passes or is refused with a fault, unless it is too extreme. -/
theorem check_failsOnly (e : Entry) : FailsOnly Failure.IsValidation e.check ↔ ¬ e.IsExtreme := by
  cases e with
  | number field rule ok v => exact (failsOnly_map _).trans FormField.intWhere_failsOnly
  | uses v =>
    refine (failsOnly_map _).trans ((failsOnly_map _).trans ?_)
    unfold useLimit
    by_cases hblank : FormField.isBlank v = true
    · rw [if_pos hblank]
      exact iff_of_true (failsOnly_ok _) (FormField.not_isExtreme_of_isBlank hblank)
    · rw [if_neg hblank]
      exact FormField.intWhere_failsOnly
  | name v =>
    refine (failsOnly_map _).trans ?_
    unfold Draft.name
    cases hwritten : v.isWritten with
    | true => exact iff_of_true (failsOnly_ok _) (by simp [IsExtreme, hwritten])
    | false =>
      refine iff_of_false ?_ (by simp [IsExtreme, hwritten])
      simp [failsOnly_error, Failure.IsValidation]
  | bound field v => exact (failsOnly_map _).trans FormField.timestamp_failsOnly

end Entry

/-- The entries of a draft in the order in which they are checked: the count of new vouchers only,
the use limit of gifts only. -/
def entries (inputs : Fields) (isNew : Bool) : List Entry :=
  let entry := Value.fieldOf inputs
  [.number "quota" .positive (0 < ·) (entry "quota")]
    ++ (if isNew then [.number "count" .atLeastOne (1 ≤ ·) (entry "count")] else [])
    ++ (if (entry "is_gift").isTruthy then [.uses (entry "max_uses")] else [])
    ++ [.name (entry "name"), .bound "valid_from" (entry "valid_from"),
      .bound "valid_until" (entry "valid_until")]

/-- An entry is reached when all those before it pass. -/
inductive Reached : List Entry → Entry → Prop where
  | first (e : Entry) (rest : List Entry) : Reached (e :: rest) e
  | later {d e : Entry} {rest : List Entry} (passes : d.check = .ok ()) (reached : Reached rest e) :
    Reached (d :: rest) e

/-- Entries that are checked one after the other are refused as those that are reached. -/
theorem checks_failsOnly {P : Failure → Prop} (l : List Entry) :
    FailsOnly P (l.forM Entry.check) ↔ ∀ e, Reached l e → FailsOnly P e.check := by
  induction l with
  | nil => exact iff_of_true (failsOnly_ok ()) (by rintro e ⟨⟩)
  | cons d rest ih =>
    have hsteps : (d :: rest).forM Entry.check = d.check >>= fun _ => rest.forM Entry.check := rfl
    rw [hsteps, failsOnly_bind, ih]
    constructor
    · rintro ⟨hfirst, hrest⟩ e hreached
      cases hreached with
      | first => exact hfirst
      | later passes reached => exact hrest () passes e reached
    · intro hall
      exact ⟨hall d (.first d rest), fun _ passes e reached => hall e (.later passes reached)⟩

/-- What is not needed of a step but that it passes can be checked before the others. -/
theorem map_bind_eq_check {α β : Type} {x : Except Failure α} {f : α → Except Failure β}
    {rest : Except Failure Unit} (h : ∀ a, (f a).map (fun _ => ()) = rest) :
    (x >>= f).map (fun _ => ()) = x.map (fun _ => ()) >>= fun _ => rest := by
  cases x with
  | error e => rfl
  | ok a => exact h a

/-- Around what is already read, a number or none and a text or null are always read. -/
theorem readAround_passes (editing : Option Int) {key : Value}
    (hkey : key = .null ∨ ∃ s, key = .text s) (name : String)
    (quota count validFrom validUntil : Int) (kind : VoucherKind) :
    (Voucher.readAround
      [("id", (editing.map Value.int).getD .null), ("name", .text name), ("quota", .int quota),
        ("count", .int count), ("key", key), ("valid_from", .int validFrom),
        ("valid_until", .int validUntil)] (.ok kind)).map (fun _ => ()) = .ok () := by
  have hid : Reading.intOrNull ((editing.map Value.int).getD .null) = .ok editing := by
    cases editing <;> rfl
  obtain ⟨k, hk⟩ : ∃ k, Reading.textOrNull key = .ok k := by
    rcases hkey with rfl | ⟨s, rfl⟩ <;> exact ⟨_, rfl⟩
  rw [Voucher.readAround_eq_ok.mpr ⟨editing, k, hid, hk, rfl⟩]
  rfl

/-- With a number or none to edit and a text as key, a draft is refused just as its entries are. -/
theorem toVoucher_checks {inputs : Fields} {editing : Option Int} {key : String} :
    (toVoucher inputs (.text key) ((editing.map Value.int).getD .null)).map (fun _ => ()) =
      (entries inputs editing.isNone).forM Entry.check := by
  -- From the name on, all drafts are checked in the same way.
  have hlast (quota count : Int) (kind : VoucherKind) {key : Value}
      (hkey : key = .null ∨ ∃ s, key = .text s) :
      (do
        let name ← name (Value.fieldOf inputs "name")
        let validFrom ← FormField.timestamp "valid_from" (Value.fieldOf inputs "valid_from")
        let validUntil ← FormField.timestamp "valid_until" (Value.fieldOf inputs "valid_until")
        Voucher.readAround
          [("id", (editing.map Value.int).getD .null), ("name", .text name), ("quota", .int quota),
            ("count", .int count), ("key", key), ("valid_from", .int validFrom),
            ("valid_until", .int validUntil)] (.ok kind)).map (fun _ => ()) =
        [Entry.name (Value.fieldOf inputs "name"),
          .bound "valid_from" (Value.fieldOf inputs "valid_from"),
          .bound "valid_until" (Value.fieldOf inputs "valid_until")].forM Entry.check := by
    refine map_bind_eq_check fun name => ?_
    refine map_bind_eq_check fun validFrom => ?_
    refine map_bind_eq_check fun validUntil => ?_
    exact readAround_passes editing hkey ..
  unfold toVoucher entries
  cases editing with
  | none =>
    refine map_bind_eq_check fun quota => ?_
    refine map_bind_eq_check fun count => ?_
    cases (Value.fieldOf inputs "is_gift").isTruthy with
    | false => exact hlast quota count .standard (Or.inr ⟨key, rfl⟩)
    | true =>
      simp only [ite_true]
      refine map_bind_eq_check fun kind => ?_
      exact hlast quota count kind (Or.inr ⟨key, rfl⟩)
  | some id =>
    have hone {β : Type} (f : Int → Except Failure β) : (Except.ok 1 >>= f) = f 1 := rfl
    refine map_bind_eq_check fun quota => ?_
    cases (Value.fieldOf inputs "is_gift").isTruthy with
    | false => exact hlast quota 1 .standard (Or.inl rfl)
    | true =>
      simp only [ite_true, hone]
      refine map_bind_eq_check fun kind => ?_
      exact hlast quota 1 kind (Or.inl rfl)

end Draft

end VoucherDesk
