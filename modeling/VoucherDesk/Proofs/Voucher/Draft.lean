import VoucherDesk.Voucher.Draft
import VoucherDesk.Proofs.Calendar.Timestamp
import VoucherDesk.Proofs.Failure
import VoucherDesk.Proofs.Value.Fields

/-!
# What drafts describe

A draft is accepted just when each of its fields reads as the number that the voucher holds
and obeys the rule of that field. Every accepted draft without moments in it obeys the range
rules of vouchers, and a voucher that is let through has a window.
-/

namespace VoucherDesk

namespace FormField

/-- A ruled number is read just when the number is read and satisfies the rule. -/
theorem intWhere_eq_ok {field : String} {v : Value} {rule : FieldRule} {ok : Int → Bool} {n : Int} :
    intWhere field v rule ok = .ok n ↔ int field v = .ok n ∧ ok n = true := by
  unfold intWhere
  rw [bind_eq_ok]
  constructor
  · rintro ⟨m, hm, h⟩
    cases hok : ok m with
    | false => simp [hok] at h
    | true =>
      have he : m = n := by simpa [hok, pure, Except.pure] using h
      exact ⟨he ▸ hm, he ▸ hok⟩
  · rintro ⟨hn, hok⟩
    exact ⟨n, hn, by simp [hok, pure, Except.pure]⟩

/-- A timestamp is negative just when it is read off a moment before the epoch. -/
theorem timestamp_nonneg_iff {field : String} {v : Value} {n : Int}
    (h : timestamp field v = .ok n) : 0 ≤ n ↔ ∀ t, v = .moment t → 0 ≤ t.epochMicros := by
  unfold timestamp at h
  by_cases hblank : isBlank v = true
  · rw [if_pos hblank] at h
    cases h
    refine iff_of_true (Int.le_refl 0) ?_
    rintro t rfl
    cases hblank
  · rw [if_neg hblank] at h
    split at h
    · next t =>
      cases ht : t.timestamp? with
      | none =>
        rw [ht] at h
        cases h
      | some m =>
        rw [ht] at h
        obtain rfl : m = n := Except.ok.inj h
        rw [Moment.timestamp?_nonneg_iff ht]
        constructor
        · rintro hnonneg t' ⟨⟩
          exact hnonneg
        · exact fun hall => hall t rfl
    · next hother =>
      have hnonneg : 0 ≤ n := by simpa using (intWhere_eq_ok.mp h).2
      exact iff_of_true hnonneg fun t ht => absurd ht (hother t)

end FormField

/-- A use limit is unlimited or at least one. -/
theorem Draft.useLimit_range {v : Value} {n : Int} (h : Draft.useLimit v = .ok n) :
    n = unlimitedUses ∨ 1 ≤ n := by
  unfold Draft.useLimit at h
  split at h
  · cases h
    exact Or.inl rfl
  · simpa using (FormField.intWhere_eq_ok.mp h).2

namespace Voucher

/-- A voucher is let through just when its window, if it has two ends, is not empty. -/
theorem validate_eq_ok {v : Voucher} :
    v.validate = .ok () ↔ (0 < v.validFrom → 0 < v.validUntil → v.validFrom < v.validUntil) := by
  simp only [validate, hasWindow, Bool.not_eq_true', Bool.and_eq_false_iff, decide_eq_false_iff_not,
    ite_eq_left_iff, reduceCtorEq, imp_false]
  omega

/-- The range rules of vouchers. -/
structure InRange (v : Voucher) : Prop where
  quota : 0 < v.quota
  count : 1 ≤ v.count
  maxUses : v.maxUses = unlimitedUses ∨ 1 ≤ v.maxUses
  /-- Only gifts have a use limit. -/
  unlimited : v.isGift = false → v.maxUses = unlimitedUses
  validFrom : 0 ≤ v.validFrom
  validUntil : 0 ≤ v.validUntil
  /-- A window with two ends is not empty. -/
  window : v.validFrom ≠ 0 → v.validUntil ≠ 0 → v.validFrom < v.validUntil

/-- Around numbers and a name that are already read, only the number and the key are left to
read. -/
theorem readAround_eq_ok {id key : Value} {name : String} {quota count validFrom validUntil : Int}
    {kind : VoucherKind} {v : Voucher} :
    readAround
        [("id", id), ("name", .text name), ("quota", .int quota), ("count", .int count),
          ("key", key), ("valid_from", .int validFrom), ("valid_until", .int validUntil)]
        (.ok kind) = .ok v ↔
      ∃ i k, Reading.intOrNull id = .ok i ∧ Reading.textOrNull key = .ok k ∧
        v = ⟨i, name, quota, count, k, kind, validFrom, validUntil⟩ := by
  have hkind : (.ok kind : Reading.Checked VoucherKind).mapError
      (List.map (Problem.under "kind")) = .ok kind := rfl
  cases hi : Reading.intOrNull id <;> cases hk : Reading.textOrNull key <;>
    simp [readAround, Reading.field, Fields.get?, List.lookup_cons, Reading.located, Reading.both,
      Reading.text, Reading.int, hkind, hi, hk, eq_comm]

end Voucher

namespace Draft

/-- A draft describes a voucher: every field reads as what the voucher holds, by the rule of the
field. -/
structure Describes (inputs : Fields) (key editingId : Value) (v : Voucher) : Prop where
  quota : FormField.int "quota" (Value.fieldOf inputs "quota") = .ok v.quota
  quota_pos : 0 < v.quota
  /-- The count is read for new vouchers only. -/
  count : if editingId.isNull then
      FormField.int "count" (Value.fieldOf inputs "count") = .ok v.count ∧ 1 ≤ v.count
    else v.count = 1
  /-- The use limit is read for gifts only. -/
  kind : if (Value.fieldOf inputs "is_gift").isTruthy then
      ∃ n, useLimit (Value.fieldOf inputs "max_uses") = .ok n ∧ v.kind = .gift n
    else v.kind = .standard
  validFrom : FormField.timestamp "valid_from" (Value.fieldOf inputs "valid_from") = .ok v.validFrom
  validUntil :
    FormField.timestamp "valid_until" (Value.fieldOf inputs "valid_until") = .ok v.validUntil
  name : Draft.name (Value.fieldOf inputs "name") = .ok v.name
  id : Reading.intOrNull editingId = .ok v.id
  /-- The key is read for new vouchers only. -/
  key : Reading.textOrNull (if editingId.isNull then key else .null) = .ok v.key

/-- A draft is accepted just for the voucher that it describes. -/
theorem toVoucher_eq_ok {inputs : Fields} {key editingId : Value} {v : Voucher} :
    toVoucher inputs key editingId = .ok v ↔ Describes inputs key editingId v := by
  -- The two choices are settled first: everything that follows is read in the same way.
  have hiff : toVoucher inputs key editingId = .ok v ↔
      ∃ quota, (FormField.int "quota" (Value.fieldOf inputs "quota") = .ok quota ∧ 0 < quota) ∧
      ∃ count, (if editingId.isNull then
          FormField.int "count" (Value.fieldOf inputs "count") = .ok count ∧ 1 ≤ count
        else count = 1) ∧
      ∃ kind, (if (Value.fieldOf inputs "is_gift").isTruthy then
          ∃ n, useLimit (Value.fieldOf inputs "max_uses") = .ok n ∧ kind = .gift n
        else kind = .standard) ∧
      ∃ named, name (Value.fieldOf inputs "name") = .ok named ∧
      ∃ validFrom, FormField.timestamp "valid_from" (Value.fieldOf inputs "valid_from") =
        .ok validFrom ∧
      ∃ validUntil, FormField.timestamp "valid_until" (Value.fieldOf inputs "valid_until") =
        .ok validUntil ∧
      ∃ i k, Reading.intOrNull editingId = .ok i ∧
        Reading.textOrNull (if editingId.isNull then key else .null) = .ok k ∧
        v = ⟨i, named, quota, count, k, kind, validFrom, validUntil⟩ := by
    cases hnull : editingId.isNull <;> cases hgift : (Value.fieldOf inputs "is_gift").isTruthy <;>
      cases hn : useLimit (Value.fieldOf inputs "max_uses") <;>
      simp [toVoucher, hnull, hgift, hn, bind_eq_ok, FormField.intWhere_eq_ok,
        Voucher.readAround_eq_ok, Except.map]
  rw [hiff]
  constructor
  · rintro ⟨quota, ⟨hquota, hpos⟩, count, hcount, kind, hkind, named, hname, validFrom, hfrom,
      validUntil, huntil, i, k, hi, hk, rfl⟩
    exact ⟨hquota, hpos, hcount, hkind, hfrom, huntil, hname, hi, hk⟩
  · intro h
    exact ⟨v.quota, ⟨h.quota, h.quota_pos⟩, v.count, h.count, v.kind, h.kind, v.name, h.name,
      v.validFrom, h.validFrom, v.validUntil, h.validUntil, v.id, v.key, h.id, h.key, rfl⟩

/-- What a draft without moments describes is in range, once its window is let through. -/
theorem Describes.inRange {inputs : Fields} {key editingId : Value} {v : Voucher}
    (h : Describes inputs key editingId v) (hinputs : inputs.HasNoMoment)
    (hwindow : v.validate = .ok ()) : v.InRange := by
  have hnone (name : String) (t : Moment) : Value.fieldOf inputs name ≠ .moment t := by
    intro ht
    have hmoment := hinputs.fieldOf name
    rw [ht] at hmoment
    cases hmoment
  have hfrom : 0 ≤ v.validFrom :=
    (FormField.timestamp_nonneg_iff h.validFrom).mpr fun t ht => absurd ht (hnone _ t)
  have huntil : 0 ≤ v.validUntil :=
    (FormField.timestamp_nonneg_iff h.validUntil).mpr fun t ht => absurd ht (hnone _ t)
  have hcount : 1 ≤ v.count := by
    have hread := h.count
    split at hread
    · exact hread.2
    · omega
  have huses : (v.maxUses = unlimitedUses ∨ 1 ≤ v.maxUses) ∧
      (v.isGift = false → v.maxUses = unlimitedUses) := by
    have hkind := h.kind
    split at hkind
    · obtain ⟨n, hn, hgift⟩ := hkind
      simpa [Voucher.maxUses, Voucher.isGift, hgift] using useLimit_range hn
    · simp [Voucher.maxUses, hkind]
  refine ⟨h.quota_pos, hcount, huses.1, huses.2, hfrom, huntil, fun hf hu => ?_⟩
  exact Voucher.validate_eq_ok.mp hwindow (by omega) (by omega)

end Draft

end VoucherDesk
