import VoucherDesk.Changes
import VoucherDesk.Proofs.Value.Fields

/-!
# What has changed

Among named values in which no name occurs twice, the changes from a baseline are those of the
values that the baseline lacks or has otherwise, one for each name.
-/

namespace VoucherDesk.Changes

variable {current baseline : Fields} {c : Change}

/-- A value has changed if the baseline lacks it or has another one. -/
theorem changeOf_eq_some {name : String} {value : Value} :
    changeOf baseline name value = some c ↔ c.name = name ∧ c.new = value ∧
      ((baseline.get? name = none ∧ c.old = .null) ∨
        ∃ old, baseline.get? name = some old ∧ old.same value = false ∧ c.old = old) := by
  unfold changeOf
  cases baseline.get? name with
  | none =>
    constructor
    · rintro ⟨⟩
      exact ⟨rfl, rfl, Or.inl ⟨rfl, rfl⟩⟩
    · rintro ⟨rfl, rfl, ⟨-, hold⟩ | ⟨old, hold, -⟩⟩
      · rw [← hold]
      · cases hold
  | some w =>
    cases hsame : w.same value with
    | true =>
      simp only [hsame, ite_true, reduceCtorEq, false_iff]
      rintro ⟨-, -, ⟨hnone, -⟩ | ⟨old, hold, hdiffers, -⟩⟩
      · cases hnone
      · cases hold
        cases hsame.symm.trans hdiffers
    | false =>
      simp only [hsame, Bool.false_eq_true, ite_false]
      constructor
      · rintro ⟨⟩
        exact ⟨rfl, rfl, Or.inr ⟨w, rfl, hsame, rfl⟩⟩
      · rintro ⟨rfl, rfl, ⟨hold, -⟩ | ⟨old, ⟨⟩, -, hold⟩⟩
        · cases hold
        · rw [← hold]

/-- The changes stand under names of the current values, in their order. -/
theorem names_between_sublist (current baseline : Fields) :
    ((between current baseline).map Change.name).Sublist current.names := by
  induction current with
  | nil => exact List.Sublist.slnil
  | cons p rest ih =>
    unfold between at ih ⊢
    rw [List.filterMap_cons]
    split
    · exact ih.cons p.1
    · next c hc =>
      rw [List.map_cons, (changeOf_eq_some.mp hc).1]
      exact ih.cons_cons p.1

/-- The changes are those of the current values. -/
theorem mem_between (h : current.names.Nodup) :
    c ∈ between current baseline ↔
      current.get? c.name = some c.new ∧ changeOf baseline c.name c.new = some c := by
  rw [between, List.mem_filterMap, Fields.get?_eq_some h]
  constructor
  · rintro ⟨⟨name, value⟩, hmem, hc⟩
    obtain ⟨hname, hnew, -⟩ := changeOf_eq_some.mp hc
    rw [hname, hnew]
    exact ⟨hmem, hc⟩
  · rintro ⟨hmem, hc⟩
    exact ⟨(c.name, c.new), hmem, hc⟩

end VoucherDesk.Changes
