import VoucherDesk.Proofs.Voucher.Draft

/-!
# Windows read off moments

An end of a window may be entered as a number, which must not be negative, or as a moment,
whose timestamp is taken as it is. A draft that is let through obeys the rules of windows just
when no moment in it lies before the epoch.
-/

namespace VoucherDesk.Draft

/-- A draft whose window is let through has no negative end, and no empty window between two ends,
just when none of its ends is a moment before the epoch. -/
theorem window_obeys_iff {inputs : Fields} {key editingId : Value} {v : Voucher}
    (h : toVoucher inputs key editingId = .ok v) (hwindow : v.validate = .ok ()) :
    (0 ≤ v.validFrom ∧ 0 ≤ v.validUntil ∧
        (v.validFrom ≠ 0 → v.validUntil ≠ 0 → v.validFrom < v.validUntil)) ↔
      ∀ name ∈ ["valid_from", "valid_until"], ∀ t,
        Value.fieldOf inputs name = .moment t → 0 ≤ t.epochMicros := by
  have hdescribes := toVoucher_eq_ok.mp h
  have hopen := Voucher.validate_eq_ok.mp hwindow
  rw [List.forall_mem_cons, List.forall_mem_singleton,
    ← FormField.timestamp_nonneg_iff hdescribes.validFrom,
    ← FormField.timestamp_nonneg_iff hdescribes.validUntil]
  constructor
  · rintro ⟨hfrom, huntil, -⟩
    exact ⟨hfrom, huntil⟩
  · rintro ⟨hfrom, huntil⟩
    refine ⟨hfrom, huntil, fun hbounded hbounded' => ?_⟩
    exact hopen (by omega) (by omega)

/-- A draft with a window that begins at some value and does not end. -/
def opening (validFrom : Value) : Fields :=
  [("name", .text "x"), ("quota", .int 1), ("count", .int 1), ("valid_from", validFrom),
    ("valid_until", .int 0)]

/-- It describes a voucher from the timestamp of that value on. -/
theorem toVoucher_opening {validFrom : Value} {n : Int}
    (h : FormField.timestamp "valid_from" validFrom = .ok n) :
    toVoucher (opening validFrom) (.text "") .null =
      .ok { name := "x", quota := 1, key := some "", validFrom := n } :=
  toVoucher_eq_ok.mpr
    { quota := rfl
      quota_pos := Int.one_pos
      count := ⟨rfl, Int.le_refl 1⟩
      kind := rfl
      validFrom := h
      validUntil := rfl
      name := rfl
      id := rfl
      key := rfl }

/-- The last second before the epoch. -/
def secondBefore : Moment := ⟨⟨1969, 12, 31, by decide⟩, ⟨23, 59, 59, 0, by decide⟩, none⟩

/-- The first second after the epoch. -/
def secondAfter : Moment := ⟨⟨1970, 1, 1, by decide⟩, ⟨0, 0, 1, 0, by decide⟩, none⟩

/-- A window that begins after the epoch obeys the rules of windows. -/
theorem window_obeys_after :
    ∃ v, toVoucher (opening (.moment secondAfter)) (.text "") .null = .ok v ∧
      v.validate = .ok () ∧ 0 ≤ v.validFrom ∧ 0 ≤ v.validUntil ∧
        (v.validFrom ≠ 0 → v.validUntil ≠ 0 → v.validFrom < v.validUntil) := by
  have htimestamp : secondAfter.timestamp? = some 1 := by decide +kernel
  have hread : FormField.timestamp "valid_from" (.moment secondAfter) = .ok 1 := by
    simp [FormField.timestamp, FormField.isBlank, htimestamp]
  have hvoucher := toVoucher_opening hread
  refine ⟨_, hvoucher, rfl, (window_obeys_iff hvoucher rfl).mpr ?_⟩
  rw [List.forall_mem_cons, List.forall_mem_singleton]
  constructor
  · rintro t ⟨⟩
    decide
  · rintro t ⟨⟩

/-- A window that begins in the last second before the epoch is let through with a negative
timestamp. -/
theorem not_window_obeys_before :
    ¬ ∀ (inputs : Fields) (key editingId : Value) (v : Voucher),
      (∀ name ∈ ["valid_from", "valid_until"],
        (∃ t, Value.fieldOf inputs name = .moment t) ∨ ∃ n, Value.fieldOf inputs name = .int n) →
      toVoucher inputs key editingId = .ok v → v.validate = .ok () →
      0 ≤ v.validFrom ∧ 0 ≤ v.validUntil ∧
        (v.validFrom ≠ 0 → v.validUntil ≠ 0 → v.validFrom < v.validUntil) := by
  intro hall
  have htimestamp : secondBefore.timestamp? = some (-1) := by decide +kernel
  have hread : FormField.timestamp "valid_from" (.moment secondBefore) = .ok (-1) := by
    simp [FormField.timestamp, FormField.isBlank, htimestamp]
  have hentries : ∀ name ∈ ["valid_from", "valid_until"],
      (∃ t, Value.fieldOf (opening (.moment secondBefore)) name = .moment t) ∨
        ∃ n, Value.fieldOf (opening (.moment secondBefore)) name = .int n := by
    rw [List.forall_mem_cons, List.forall_mem_singleton]
    exact ⟨Or.inl ⟨_, rfl⟩, Or.inr ⟨_, rfl⟩⟩
  obtain ⟨hfrom, -⟩ := hall _ _ _ _ hentries (toVoucher_opening hread) rfl
  exact absurd hfrom (by decide)

end VoucherDesk.Draft
