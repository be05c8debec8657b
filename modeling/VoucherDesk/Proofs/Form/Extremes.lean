import VoucherDesk.Proofs.Double.Rounding
import VoucherDesk.Proofs.Form.Bodies
import VoucherDesk.Proofs.Form.Turns
import VoucherDesk.Proofs.Voucher.Entries

/-!
# Submissions of extreme drafts

A submission that finds nothing to send tells the operator why, as long as that is a fault. What
the draft of a form holds can be too extreme for that: in an entry that is checked, or in a quota
after which new vouchers are to be named.
-/

namespace VoucherDesk

open Dialogue

/-- A window is let through or refused with a fault. -/
theorem Voucher.validate_failsOnly (v : Voucher) : FailsOnly Failure.IsValidation v.validate := by
  unfold Voucher.validate
  split
  · exact failsOnly_ok ()
  · exact failsOnly_error.mpr ⟨_, rfl, rfl⟩

/-- With default settings a quota has a label just while its amount of currency is a double. -/
theorem Label.quota_failsOnly {n : Int} (hn : 0 < n) :
    FailsOnly Failure.IsValidation (Label.quota {} (.int n) none) ↔
      ¬ 500000 * Double.overflow ≤ n := by
  have hlabel : Label.quota {} (.int n) none =
      Label.quotient n 500000 >>= fun x => .ok ("$" ++ x.toFixed 2) := rfl
  have hquotient : FailsOnly Failure.IsValidation (Label.quotient n 500000) ↔
      Double.ofQuotient? n 500000 ≠ none := by
    unfold Label.quotient
    rw [if_neg (by decide)]
    cases Double.ofQuotient? n 500000 with
    | some x => exact iff_of_true (failsOnly_ok x) (by simp)
    | none => exact iff_of_false (by simp [failsOnly_error, Failure.IsValidation]) (by simp)
  have hlarge : Double.ofQuotient? n 500000 = none ↔ 500000 * Double.overflow ≤ n := by
    have hden : (500000 : Int).natAbs = 500000 := rfl
    rw [Double.ofQuotient?_eq_none_iff n (by decide), hden]
    generalize Double.overflow = k
    omega
  rw [hlabel, failsOnly_bind, hquotient, Ne, hlarge]
  exact and_iff_left fun x _ => failsOnly_ok _

namespace Form

/-- The ways in which the draft of a form can be too extreme to be submitted. -/
inductive IsOverwhelmed (f : Form) : Prop where
  /-- An entry that is checked is too extreme. -/
  | entry (e : Draft.Entry) (reached : Draft.Reached (Draft.entries f.inputs f.editingId.isNull) e)
    (extreme : e.IsExtreme)
  /-- New vouchers are to be named after a quota whose amount of currency is no double. -/
  | label (d : Voucher) (drafted : Draft.toVoucher f.inputs f.key f.editingId = .ok d)
    (window : d.validate = .ok ()) (new : f.isEdit = false) (unnamed : d.name = "")
    (large : 500000 * Double.overflow ≤ d.quota)

/-- The draft of a form is built, or a submission tells its one fault and ends without asking. -/
def Surfaces (f : Form) : Prop :=
  (∃ v, f.build = .ok v) ∨
    ∃ e : Fault, e.isValidation = true ∧ f.build = .error (.fault e) ∧
      (f.submitting = false →
        f.submit = (Turn.finish f (.ok (.accepted false))).after [.error e.message])

/-- A form surfaces just what it builds or refuses with a fault. -/
theorem surfaces_iff_failsOnly {f : Form} :
    f.Surfaces ↔ FailsOnly Failure.IsValidation f.build := by
  constructor
  · rintro (⟨v, hbuild⟩ | ⟨e, hvalidation, hbuild, -⟩)
    · rw [hbuild]
      exact failsOnly_ok v
    · rw [hbuild]
      exact failsOnly_error.mpr ⟨e, hvalidation, rfl⟩
  · intro hfails
    cases hbuild : f.build with
    | ok v => exact Or.inl ⟨v, hbuild⟩
    | error failure =>
      obtain ⟨e, hvalidation, rfl⟩ := hfails failure hbuild
      refine Or.inr ⟨e, hvalidation, hbuild, fun hfree => ?_⟩
      simp only [Form.submit, hfree, hbuild, hvalidation, Bool.false_eq_true, ite_true, ite_false]

/-- A form fails to build a voucher for a fault, unless its draft is too extreme. -/
theorem build_failsOnly {f : Form} (editing : Option Int) (key : String)
    (hsettings : f.settings = {}) (hediting : f.editingId = (editing.map Value.int).getD .null)
    (hkey : f.key = .text key) :
    FailsOnly Failure.IsValidation f.build ↔ ¬ f.IsOverwhelmed := by
  have hdraft : FailsOnly Failure.IsValidation (Draft.toVoucher f.inputs f.key f.editingId) ↔
      ∀ e, Draft.Reached (Draft.entries f.inputs f.editingId.isNull) e → ¬ e.IsExtreme := by
    have hnull : f.editingId.isNull = editing.isNone := by
      rw [hediting]
      cases editing <;> rfl
    rw [← failsOnly_map fun _ => (), hnull, hkey, hediting, Draft.toVoucher_checks,
      Draft.checks_failsOnly]
    simp only [Draft.Entry.check_failsOnly]
  have hlabel (d : Voucher) (hdrafted : Draft.toVoucher f.inputs f.key f.editingId = .ok d) :
      FailsOnly Failure.IsValidation (Label.quota f.settings (.int d.quota) none) ↔
        ¬ 500000 * Double.overflow ≤ d.quota := by
    rw [hsettings]
    exact Label.quota_failsOnly (Draft.toVoucher_eq_ok.mp hdrafted).quota_pos
  have hname (d : Voucher) :
      (!f.isEdit && d.name.isEmpty) = true ↔ f.isEdit = false ∧ d.name = "" := by
    simp
  unfold Form.build
  rw [failsOnly_bind, hdraft]
  constructor
  · rintro ⟨hentries, hbuilt⟩ (⟨e, reached, extreme⟩ | ⟨d, drafted, window, new, unnamed, large⟩)
    · exact hentries e reached extreme
    · have hnamed := (failsOnly_bind.mp (hbuilt d drafted)).2 () window
      rw [if_pos ((hname d).mpr ⟨new, unnamed⟩)] at hnamed
      exact (hlabel d drafted).mp (failsOnly_bind.mp hnamed).1 large
  · intro hplain
    refine ⟨fun e reached extreme => hplain (.entry e reached extreme), fun d drafted => ?_⟩
    refine failsOnly_bind.mpr ⟨d.validate_failsOnly, fun _ window => ?_⟩
    split
    · next hnew =>
      obtain ⟨new, unnamed⟩ := (hname d).mp hnew
      refine failsOnly_bind.mpr ⟨(hlabel d drafted).mpr fun large => ?_, fun _ _ => failsOnly_ok _⟩
      exact hplain (.label d drafted window new unnamed large)
    · exact failsOnly_ok d

/-- With default settings, a number or none to edit and a text as key, a form builds a voucher, or
tells the one fault of its draft and sends nothing, just when its draft is not too extreme. -/
theorem surfaces_iff_not_overwhelmed {f : Form} (editing : Option Int) (key : String)
    (hsettings : f.settings = {}) (hediting : f.editingId = (editing.map Value.int).getD .null)
    (hkey : f.key = .text key) : f.Surfaces ↔ ¬ f.IsOverwhelmed :=
  surfaces_iff_failsOnly.trans (build_failsOnly editing key hsettings hediting hkey)

/-- A new form with one value entered. -/
def entered (name : String) (value : Value) : Form :=
  { settings := {}, inputs := Draft.defaults.put name value }

/-- A quota that is a word is told. -/
theorem surfaces_worded_quota :
    let f := entered "quota" (.text "ten")
    f.settings = {} ∧ f.editingId = ((none : Option Int).map Value.int).getD .null ∧
      f.key = .text "" ∧ f.Surfaces := by
  intro f
  have hplain : ¬ f.IsOverwhelmed := by
    rintro (⟨e, reached, extreme⟩ | ⟨d, drafted, -⟩)
    · cases reached with
      | first =>
        obtain ⟨negative, ds, hnumeral, -⟩ := FormField.isExtreme_text.mp extreme
        cases hnumeral
      | later passes => cases passes
    · cases drafted
  exact ⟨rfl, rfl, rfl, (surfaces_iff_not_overwhelmed none "" rfl rfl rfl).mpr hplain⟩

/-- The first moment of the calendar. -/
def firstMoment : Moment := ⟨⟨1, 1, 1, by decide⟩, .midnight, none⟩

/-- A window that begins at the first moment of the calendar ends a submission with no fault. -/
theorem not_surfaces_first_moment :
    ¬ ∀ (f : Form) (editing : Option Int) (key : String), f.settings = {} →
      f.editingId = (editing.map Value.int).getD .null → f.key = .text key → f.Surfaces := by
  intro hall
  have hsurfaces := hall (entered "valid_from" (.moment firstMoment)) none "" rfl rfl rfl
  have hplain := (build_failsOnly none "" rfl rfl rfl).mp (surfaces_iff_failsOnly.mp hsurfaces)
  have hreached : Draft.Reached
      (Draft.entries (Draft.defaults.put "valid_from" (.moment firstMoment)) true)
      (.bound "valid_from" (.moment firstMoment)) :=
    .later rfl (.later rfl (.later rfl (.first ..)))
  exact hplain (.entry _ hreached (Or.inl ⟨firstMoment, rfl, rfl, by decide⟩))

end Form

end VoucherDesk
