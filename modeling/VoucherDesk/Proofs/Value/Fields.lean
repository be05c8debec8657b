import VoucherDesk.Value.Basic

/-!
# Named values

Where the values of a record come from: what is read under a name stands in the record or is
null, and putting a value adds nothing but that value. Records without moments stay so.
-/

namespace VoucherDesk

/-- What is put under a name is the only entry that may be new. -/
theorem Fields.mem_put {fields : Fields} {name : String} {v : Value} {p : String × Value}
    (h : p ∈ fields.put name v) : p = (name, v) ∨ p ∈ fields := by
  induction fields with
  | nil => exact Or.inl (by simpa [Fields.put] using h)
  | cons q rest ih =>
    obtain ⟨n, w⟩ := q
    simp only [Fields.put] at h
    split at h
    · next hn =>
      subst hn
      rcases List.mem_cons.mp h with rfl | hrest
      · exact Or.inl rfl
      · exact Or.inr (List.mem_cons_of_mem _ hrest)
    · rcases List.mem_cons.mp h with rfl | hrest
      · exact Or.inr (List.mem_cons_self ..)
      · exact (ih hrest).imp id (List.mem_cons_of_mem _)

/-- Values by name are among the pairs that they are made from. -/
theorem Fields.mem_of_mem_ofPairs {pairs : List (String × Value)} {p : String × Value}
    (h : p ∈ Fields.ofPairs pairs) : p ∈ pairs := by
  have hfold (rest : List (String × Value)) (fields : Fields)
      (hp : p ∈ rest.foldl (fun fields p => fields.put p.1 p.2) fields) :
      p ∈ fields ∨ p ∈ rest := by
    induction rest generalizing fields with
    | nil => exact Or.inl hp
    | cons q rest ih =>
      rcases ih _ hp with hput | hrest
      · rcases Fields.mem_put hput with rfl | hold
        · exact Or.inr (List.mem_cons_self ..)
        · exact Or.inl hold
      · exact Or.inr (List.mem_cons_of_mem _ hrest)
  exact (hfold pairs [] h).resolve_left List.not_mem_nil

/-- The first of named values is found under its name. -/
theorem Fields.get?_cons (n name : String) (v : Value) (rest : Fields) :
    Fields.get? ((n, v) :: rest) name = if name = n then some v else rest.get? name := by
  unfold get?
  by_cases h : name = n
  · rw [if_pos h, h, List.lookup_cons_self]
  · have hne : (name == n) = false := by simpa using h
    rw [if_neg h, List.lookup_cons, hne]

/-- A value that is put is found under its name, and the others are found as before. -/
theorem Fields.get?_put (fields : Fields) (name other : String) (v : Value) :
    (fields.put name v).get? other = if other = name then some v else fields.get? other := by
  induction fields with
  | nil => exact get?_cons name other v []
  | cons p rest ih =>
    obtain ⟨n, w⟩ := p
    simp only [put]
    split
    · next hn =>
      subst hn
      rw [get?_cons, get?_cons]
      split <;> rfl
    · next hn =>
      rw [get?_cons, get?_cons, ih]
      by_cases h : other = n
      · rw [if_pos h, if_pos h, if_neg (h ▸ hn)]
      · rw [if_neg h, if_neg h]

/-- What is found among the values under some names is what was found there. -/
theorem Fields.get?_filterMap (fields : Fields) (names : List String) (name : String) :
    Fields.get? (names.filterMap fun n => (fields.get? n).map fun v => (n, v)) name =
      if name ∈ names then fields.get? name else none := by
  induction names with
  | nil => rfl
  | cons n rest ih =>
    by_cases h : name = n
    · subst h
      cases hn : fields.get? name with
      | none => simp [hn, ih]
      | some v => simp [hn, get?_cons]
    · cases hn : fields.get? n with
      | none => simp [hn, ih, h]
      | some v => simp [hn, get?_cons, ih, h]

/-- A value that is found stands under its name. -/
theorem Fields.mem_of_get? {fields : Fields} {name : String} {v : Value}
    (h : fields.get? name = some v) : (name, v) ∈ fields := by
  obtain ⟨before, after, heq, -⟩ := List.lookup_eq_some_iff.mp h
  exact heq ▸ List.mem_append_right _ (List.mem_cons_self ..)

/-- Where no name occurs twice, a value is found just when it stands under its name. -/
theorem Fields.get?_eq_some {fields : Fields} (h : fields.names.Nodup) {name : String} {v : Value} :
    fields.get? name = some v ↔ (name, v) ∈ fields := by
  refine ⟨mem_of_get?, fun hmem => ?_⟩
  obtain ⟨before, after, rfl⟩ := List.append_of_mem hmem
  refine List.lookup_eq_some_iff.mpr ⟨before, after, rfl, fun p hp => ?_⟩
  rw [names, List.map_append, List.map_cons, List.nodup_append] at h
  simpa using (h.2.2 p.1 (List.mem_map_of_mem hp) name (List.mem_cons_self ..)).symm

/-- A name is found just when it occurs. -/
theorem Fields.isSome_get? {fields : Fields} {name : String} :
    (fields.get? name).isSome = true ↔ name ∈ fields.names := by
  induction fields with
  | nil => simp [get?, names]
  | cons p rest ih =>
    obtain ⟨n, w⟩ := p
    rw [get?_cons]
    by_cases h : name = n
    · simp [h, names]
    · rw [if_neg h, ih]
      simp [h, names]

/-- What is read under a name stands under that name, or is null. -/
theorem Value.fieldOf_cases (fields : Fields) (name : String) :
    Value.fieldOf fields name = .null ∨ (name, Value.fieldOf fields name) ∈ fields := by
  unfold Value.fieldOf
  cases hget : fields.get? name with
  | none => exact Or.inl rfl
  | some v => exact Or.inr (Fields.mem_of_get? hget)

/-- Whether a value is a moment, as nothing is that comes from JSON. -/
def Value.isMoment : Value → Bool
  | .moment _ => true
  | _ => false

/-- No value of the record is a moment. -/
def Fields.HasNoMoment (fields : Fields) : Prop := ∀ p ∈ fields, p.2.isMoment = false

/-- Putting a value that is no moment brings no moment in. -/
theorem Fields.HasNoMoment.put {fields : Fields} (h : fields.HasNoMoment) (name : String)
    {v : Value} (hv : v.isMoment = false) : (fields.put name v).HasNoMoment := by
  intro p hp
  rcases Fields.mem_put hp with rfl | hold
  · exact hv
  · exact h p hold

/-- What is read from a record without moments is none. -/
theorem Fields.HasNoMoment.fieldOf {fields : Fields} (h : fields.HasNoMoment) (name : String) :
    (Value.fieldOf fields name).isMoment = false := by
  rcases Value.fieldOf_cases fields name with hnull | hmem
  · rw [hnull]
    rfl
  · exact h _ hmem

end VoucherDesk
