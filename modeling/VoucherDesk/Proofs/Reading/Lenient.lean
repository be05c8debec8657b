import VoucherDesk.Reading.Lenient

/-!
# What is read leniently

Readings of single fields and of several side by side, each with the exact condition on which
it succeeds.
-/

namespace VoucherDesk.Reading

variable {α β : Type}

/-- Two readings side by side succeed just when both do. -/
theorem both_eq_ok {x : Checked α} {y : Checked β} {p : α × β} :
    both x y = .ok p ↔ x = .ok p.1 ∧ y = .ok p.2 := by
  obtain ⟨a, b⟩ := p
  cases x <;> cases y <;> simp [both]

/-- A field is read just when it is absent and the value is the default, or its value is read. -/
theorem field_eq_ok {fields : Fields} {name : String} {default a : α}
    {read : Value → Except Mismatch α} :
    field fields name default read = .ok a ↔
      (match fields.get? name with
        | none => some default
        | some v => (read v).toOption) = some a := by
  unfold field
  cases fields.get? name with
  | none => simp
  | some v => cases hread : read v <;> simp [located, Except.toOption, hread]

/-- A field that has to be there is read just when it is and its value is read. -/
theorem required_eq_ok {fields : Fields} {name : String} {a : α}
    {read : Value → Except Mismatch α} :
    required fields name read = .ok a ↔ ∃ v, fields.get? name = some v ∧ read v = .ok a := by
  unfold required
  cases fields.get? name with
  | none => simp
  | some v => cases hread : read v <;> simp [located, hread]

/-- Only records have named values. -/
theorem fieldsOf_eq_ok {v : Value} {fields : Fields} :
    fieldsOf v = .ok fields ↔ v = .record fields := by
  cases v <;> simp [fieldsOf]

/-- Only texts are read as texts. -/
theorem text_eq_ok {v : Value} {s : String} : Reading.text v = .ok s ↔ v = .text s := by
  cases v <;> simp [Reading.text]

end VoucherDesk.Reading
