import Mathlib.Data.List.Forall2
import VoucherDesk.Failure

/-!
# Results that may fail

When operations that may fail are done one after the other, all of them together succeed just
when each does in turn, and what one of them keeps is kept by all. A fault is the only failure
that callers are prepared for.
-/

namespace VoucherDesk

variable {ε α β : Type}

/-- Two steps one after the other succeed just when each does in turn. -/
theorem bind_eq_ok {x : Except ε α} {f : α → Except ε β} {b : β} :
    (x >>= f) = .ok b ↔ ∃ a, x = .ok a ∧ f a = .ok b := by
  cases x <;> simp [bind, Except.bind]

/-- What is made of a result fails as the result does. -/
theorem map_eq_error {x : Except ε α} {f : α → β} {e : ε} : x.map f = .error e ↔ x = .error e := by
  cases x <;> simp [Except.map]

/-- Another wording of failures does not change what succeeds. -/
theorem mapError_eq_ok {δ : Type} {x : Except ε α} {f : ε → δ} {a : α} :
    x.mapError f = .ok a ↔ x = .ok a := by
  constructor
  · intro h
    cases x with
    | ok b =>
      cases h
      rfl
    | error e => cases h
  · rintro rfl
    rfl

/-- A step for each item of a list succeeds just when every single one does. -/
theorem mapM_eq_ok {f : α → Except ε β} {l : List α} {r : List β} :
    l.mapM f = .ok r ↔ List.Forall₂ (fun a b => f a = .ok b) l r := by
  induction l generalizing r with
  | nil => simp [pure, Except.pure, eq_comm]
  | cons a rest ih =>
    rw [List.mapM_cons, bind_eq_ok]
    constructor
    · rintro ⟨b, hb, h⟩
      obtain ⟨bs, hbs, h⟩ := bind_eq_ok.mp h
      cases h
      exact .cons hb (ih.mp hbs)
    · rintro (_ | ⟨hb, hbs⟩)
      exact ⟨_, hb, bind_eq_ok.mpr ⟨_, ih.mpr hbs, rfl⟩⟩

/-- A step for each item of a list fails as the first item does for which it fails. -/
theorem mapM_eq_error {f : α → Except ε β} {before after : List α} {a : α} {e : ε}
    (hbefore : ∀ b ∈ before, ∃ c, f b = .ok c) (ha : f a = .error e) :
    (before ++ a :: after).mapM f = .error e := by
  induction before with
  | nil =>
    rw [List.nil_append, List.mapM_cons, ha]
    rfl
  | cons b rest ih =>
    obtain ⟨⟨c, hc⟩, hrest⟩ := List.forall_mem_cons.mp hbefore
    rw [List.cons_append, List.mapM_cons, hc]
    simp only [ih hrest, bind, Except.bind]

/-- A check of each item of a list passes where every single one does, and otherwise fails as the
first one that does not. -/
theorem forM_cases (f : α → Except ε Unit) (l : List α) :
    (l.forM f = .ok () ∧ ∀ a ∈ l, f a = .ok ()) ∨
      ∃ before a after e, l = before ++ a :: after ∧ (∀ b ∈ before, f b = .ok ()) ∧
        f a = .error e ∧ l.forM f = .error e := by
  induction l with
  | nil => exact Or.inl ⟨rfl, List.forall_mem_nil _⟩
  | cons a rest ih =>
    have hsteps : (a :: rest).forM f = f a >>= fun _ => rest.forM f := rfl
    cases ha : f a with
    | error e =>
      refine Or.inr ⟨[], a, rest, e, rfl, List.forall_mem_nil _, ha, ?_⟩
      rw [hsteps, ha]
      rfl
    | ok u =>
      have hrest : (a :: rest).forM f = rest.forM f := by
        rw [hsteps, ha]
        rfl
      rw [hrest]
      rcases ih with ⟨hpass, hall⟩ | ⟨before, b, after, e, rfl, hbefore, hb, hfails⟩
      · exact Or.inl ⟨hpass, List.forall_mem_cons.mpr ⟨ha, hall⟩⟩
      · exact Or.inr ⟨a :: before, b, after, e, rfl, List.forall_mem_cons.mpr ⟨ha, hbefore⟩, hb,
          hfails⟩

/-- A step that succeeds for every item in a certain way does so for the whole list. -/
theorem exists_mapM_of_forall {f : α → Except ε β} {P : α → β → Prop} {l : List α}
    (h : ∀ a ∈ l, ∃ b, f a = .ok b ∧ P a b) :
    ∃ r, l.mapM f = .ok r ∧ List.Forall₂ P l r := by
  induction l with
  | nil => exact ⟨[], rfl, .nil⟩
  | cons a rest ih =>
    obtain ⟨⟨b, hb, hP⟩, hrest⟩ := List.forall_mem_cons.mp h
    obtain ⟨r, hr, hPr⟩ := ih hrest
    exact ⟨b :: r, mapM_eq_ok.mpr (.cons hb (mapM_eq_ok.mp hr)), .cons hP hPr⟩

/-- Where a step for each item succeeds, it does so for every single one. -/
theorem exists_of_mapM {f : α → Except ε β} {l : List α} {r : List β} {a : α}
    (h : l.mapM f = .ok r) (ha : a ∈ l) : ∃ b, f a = .ok b := by
  induction mapM_eq_ok.mp h with
  | nil => cases ha
  | @cons a' b rest bs hab hrest ih =>
    rcases List.mem_cons.mp ha with rfl | ha
    · exact ⟨b, hab⟩
    · exact ih (mapM_eq_ok.mpr hrest) ha

/-- Every result of a step for each item is the result of some item. -/
theorem exists_mem_of_mapM {f : α → Except ε β} {l : List α} {r : List β} {b : β}
    (h : l.mapM f = .ok r) (hb : b ∈ r) : ∃ a ∈ l, f a = .ok b := by
  induction mapM_eq_ok.mp h with
  | nil => cases hb
  | @cons a b' rest bs hab hrest ih =>
    rcases List.mem_cons.mp hb with rfl | hb
    · exact ⟨a, List.mem_cons_self, hab⟩
    · obtain ⟨a', ha', hab'⟩ := ih (mapM_eq_ok.mpr hrest) hb
      exact ⟨a', List.mem_cons_of_mem _ ha', hab'⟩

/-- What every step of a list keeps is kept by the whole list. -/
theorem foldlM_induction {f : β → α → Except ε β} {P : β → Prop} {l : List α} {b c : β}
    (h : l.foldlM f b = .ok c) (hb : P b)
    (hstep : ∀ x ∈ l, ∀ d e, P d → f d x = .ok e → P e) : P c := by
  induction l generalizing b with
  | nil =>
    cases h
    exact hb
  | cons x rest ih =>
    rw [List.foldlM_cons] at h
    obtain ⟨d, hd, h⟩ := bind_eq_ok.mp h
    refine ih h (hstep x (List.mem_cons_self ..) b d hb hd) fun y hy => ?_
    exact hstep y (List.mem_cons_of_mem _ hy)

/-- Whether nothing but failures of some kind can keep a result away. -/
def FailsOnly (P : Failure → Prop) (x : Except Failure α) : Prop := ∀ e, x = .error e → P e

/-- Whether a failure is a fault. -/
def Failure.IsFault (e : Failure) : Prop := ∃ f, e = .fault f

/-- Whether a failure is a fault that was found before anything was sent. -/
def Failure.IsValidation (e : Failure) : Prop := ∃ f : Fault, f.isValidation = true ∧ e = .fault f

section FailsOnly

variable {P : Failure → Prop}

/-- A result that is there is not kept away. -/
theorem failsOnly_ok (a : α) : FailsOnly P (.ok a) := fun _ h => nomatch h

/-- A failure keeps a result away by itself. -/
theorem failsOnly_error {e : Failure} : FailsOnly P (.error e : Except Failure α) ↔ P e :=
  ⟨fun h => h e rfl, fun h _ he => Except.error.inj he ▸ h⟩

/-- What is made of a result does not change how it can fail. -/
theorem failsOnly_map {x : Except Failure α} (f : α → β) :
    FailsOnly P (x.map f) ↔ FailsOnly P x := by
  cases x with
  | ok a => exact iff_of_true (failsOnly_ok (f a)) (failsOnly_ok a)
  | error e => exact failsOnly_error.trans failsOnly_error.symm

/-- Two steps one after the other fail as the first does, or as the second does after it. -/
theorem failsOnly_bind {x : Except Failure α} {f : α → Except Failure β} :
    FailsOnly P (x >>= f) ↔ FailsOnly P x ∧ ∀ a, x = .ok a → FailsOnly P (f a) := by
  cases x with
  | ok a =>
    constructor
    · rintro h
      refine ⟨failsOnly_ok a, ?_⟩
      rintro a' ⟨⟩
      exact h
    · exact fun h => h.2 a rfl
  | error e =>
    constructor
    · refine fun h => ⟨failsOnly_error.mpr (h e rfl), ?_⟩
      rintro a ⟨⟩
    · exact fun h => failsOnly_error.mpr (failsOnly_error.mp h.1)

end FailsOnly

end VoucherDesk
