import VoucherDesk.Value.Equality

/-!
# Changes between two sets of named values

The changes from a baseline are the names whose current value is new or differs from the
baseline, in the current order, each with its old and new value. Applying them to the
baseline brings its values up to date and leaves the other names alone.
-/

namespace VoucherDesk

/-- A name whose value has changed; a name new to the baseline has the old value null. -/
structure Change where
  name : String
  old : Value
  new : Value

namespace Changes

/-- The change of one named value against a baseline, if it has changed. -/
def changeOf (baseline : Fields) (name : String) (value : Value) : Option Change :=
  match baseline.get? name with
  | none => some ⟨name, .null, value⟩
  | some old => if old.same value then none else some ⟨name, old, value⟩

/-- The changes from a baseline to the current values. -/
def between (current baseline : Fields) : List Change :=
  current.filterMap fun p => changeOf baseline p.1 p.2

/-- The baseline with the new values of the changes. -/
def apply (changes : List Change) (baseline : Fields) : Fields :=
  changes.foldl (fun fields c => fields.put c.name c.new) baseline

end Changes

/-- An option value as it is sent: truth values go as the words `true` and `false`. -/
def sentValue : Value → Value
  | .bool b => .text (if b then "true" else "false")
  | v => v

end VoucherDesk
