import VoucherDesk.Proofs.Form.Bodies
import VoucherDesk.Proofs.Form.Loads
import VoucherDesk.Proofs.Voucher.Revision

/-!
# Editing a loaded voucher

A form that edits a voucher is filled by the reply to a load, and then its fields are edited
one by one. A submission sends the revision that the edits make of the voucher that was
loaded, if that obeys the range rules, and sends nothing otherwise.
-/

namespace VoucherDesk.Form

open Dialogue

/-- Whether a reply to the query for a voucher shows one. -/
def Shows (id : Value) (reply : Reply) (v : Voucher) : Prop :=
  ∃ message wire,
    (Query.showVoucher id).envelopeOf reply = .ok ⟨true, message, .record wire⟩ ∧
      Voucher.ofWire wire = .ok v

/-- What is asked for a voucher under edits: its revision is sent, just when the edits make one of
it that obeys the range rules. -/
structure SendsRevision (id : Int) (v : Voucher) (edits : List (String × Value)) (number : Nat)
    (asked : List Question) : Prop where
  put_iff : (∃ q ∈ asked, isPut q = true) ↔ ∃ r, Revises v edits r ∧ r.Obeys
  body : ∀ r, Revises v edits r → r.Obeys →
    asked = [⟨number, 0, .query (.updateVoucher (.record (r.body id)))⟩]

/-- A form that edits the voucher with a number and shows a voucher under edits. -/
structure ShowsEdited (id : Int) (v : Voucher) (edits : List (String × Value)) (f : Form) :
    Prop where
  editingId : f.editingId = .int id
  inputs : f.inputs = Draft.showing v edits

variable {f : Form} {id : Int} {v : Voucher} {edits : List (String × Value)}

/-- A voucher that is shown fills the form, and the load ends with it. -/
theorem fetched_of_shows {shown : Value} {reply : Reply} (h : Shows shown reply v) (f : Form) :
    f.fetched shown reply =
      .finish { f with loading := false, inputs := inputsOf v } (.ok (.voucher v)) := by
  obtain ⟨message, wire, henvelope, hwire⟩ := h
  have hin : voucherIn shown ⟨true, message, .record wire⟩ = (.ok v, []) := by
    simp only [voucherIn, hwire, Bool.not_true, Bool.false_eq_true, ite_false]
  simp only [fetched, henvelope, hin]
  rfl

/-- A field of the form takes another value. -/
theorem setField_of_mem {name : String} (h : name ∈ f.inputs.names) (value : Value) :
    f.setField name value = .ok { f with inputs := f.inputs.put name value } := by
  rw [setField, if_pos (Fields.isSome_get?.mpr h)]

/-- The fields of the form take other values in order. -/
theorem foldlM_setField (h : ∀ e ∈ edits, e.1 ∈ f.inputs.names) :
    edits.foldlM (fun f e => f.setField e.1 e.2) f =
      .ok { f with inputs := Fields.override f.inputs edits } := by
  induction edits generalizing f with
  | nil => rfl
  | cons e rest ih =>
    obtain ⟨he, hrest⟩ := List.forall_mem_cons.mp h
    rw [List.foldlM_cons, setField_of_mem he]
    refine ih (f := { f with inputs := f.inputs.put e.1 e.2 }) fun e' he' => ?_
    rw [Fields.names_put he]
    exact hrest e' he'

/-- Edits of fields of the form change nothing but these. -/
theorem play_edits {x : FormExchange} (h : ∀ e ∈ edits, e.1 ∈ x.run.state.inputs.names) :
    (x.play controller (edits.map fun e => .call (.setField e.1 e.2))).run.state =
      { x.run.state with inputs := Fields.override x.run.state.inputs edits } := by
  induction edits generalizing x with
  | nil => rfl
  | cons e rest ih =>
    obtain ⟨he, hrest⟩ := List.forall_mem_cons.mp h
    have hstep : (x.step controller (.call (.setField e.1 e.2))).run.state =
        { x.run.state with inputs := x.run.state.inputs.put e.1 e.2 } := by
      rw [Exchange.step_call]
      simp only [Exchange.begins, controller, Form.begin, setField_of_mem he]
      rfl
    refine (ih fun e' he' => ?_).trans ?_
    · rw [hstep, Fields.names_put he]
      exact hrest e' he'
    · rw [hstep]
      rfl

/-- A form that shows a voucher under edits prepares its revision, if there is one that obeys the
range rules. -/
theorem ShowsEdited.prepared_eq_ok (h : ShowsEdited id v edits f)
    (hmoments : HasNoEarlyMoment edits) {q : Query} :
    f.prepared = .ok q ↔
      ∃ r, Revises v edits r ∧ r.Obeys ∧ q = .updateVoucher (.record (r.body id)) := by
  have hedit : f.isEdit = true := by simp [isEdit, h.editingId, Value.isNull]
  have hbuild {d : Voucher} : f.build = .ok d ↔
      Draft.Describes (Draft.showing v edits) f.key (.int id) d ∧ d.validate = .ok () := by
    rw [build_eq_ok, h.inputs, h.editingId]
    simp [hedit]
  have hquery {r : Revision} (hr : Revises v edits r) :
      f.saveQuery (r.toVoucher id) = .ok (.updateVoucher (.record (r.body id))) := by
    rw [saveQuery, if_pos hedit, hr.updatePayload]
    rfl
  unfold prepared
  rw [bind_eq_ok]
  constructor
  · rintro ⟨d, hd, hq⟩
    obtain ⟨hdescribes, hwindow⟩ := hbuild.mp hd
    obtain ⟨hrevises, hobeys, heq⟩ := hdescribes.revises hmoments hwindow
    rw [heq, hquery hrevises] at hq
    exact ⟨_, hrevises, hobeys, (Except.ok.inj hq).symm⟩
  · rintro ⟨r, hrevises, hobeys, rfl⟩
    exact ⟨_, hbuild.mpr (Draft.describes_of_revises hmoments hrevises hobeys), hquery hrevises⟩

/-- A submission that is let in asks for what the form prepares, or for nothing. -/
theorem asks_submit (hfree : f.submitting = false) :
    f.submit.asks = (f.prepared.toOption.map Ask.query).toList := by
  cases submit_begins f with
  | fetches id other next state => cases other
  | sends v q submits free built query next state =>
    have hprepared : f.prepared = .ok q := by
      rw [prepared, built]
      exact query
    rw [Turn.asks, next, hprepared]
    rfl
  | ends r next edits =>
    cases hprepared : f.prepared with
    | error e =>
      rw [Turn.asks, next]
      rfl
    | ok q =>
      obtain ⟨v, hbuild, hquery⟩ := bind_eq_ok.mp hprepared
      rw [submit_of_saveQuery hfree hbuild hquery] at next
      cases next

/-- A submission of a form that shows a voucher under edits sends its revision. -/
theorem ShowsEdited.sendsRevision (h : ShowsEdited id v edits f) (hfree : f.submitting = false)
    (hmoments : HasNoEarlyMoment edits) (number : Nat) :
    SendsRevision id v edits number (questions number f.submit.asks) := by
  have hbody (r : Revision) (hr : Revises v edits r) (hobeys : r.Obeys) :
      questions number f.submit.asks =
        [⟨number, 0, .query (.updateVoucher (.record (r.body id)))⟩] := by
    rw [asks_submit hfree, (h.prepared_eq_ok hmoments).mpr ⟨r, hr, hobeys, rfl⟩]
    rfl
  refine ⟨⟨?_, ?_⟩, hbody⟩
  · rintro ⟨p, hp, -⟩
    rw [asks_submit hfree] at hp
    cases hprepared : f.prepared with
    | error e => simp [hprepared, Except.toOption] at hp
    | ok q =>
      obtain ⟨r, hr, hobeys, -⟩ := (h.prepared_eq_ok hmoments).mp hprepared
      exact ⟨r, hr, hobeys⟩
  · rintro ⟨r, hr, hobeys⟩
    rw [hbody r hr hobeys]
    exact ⟨_, List.mem_singleton_self _, rfl⟩

/-- A form edits the voucher that it was created for. -/
theorem played_editingId (settings : Settings) (editingId : Value) (hooks : List Hook)
    (directory : String) (files : FileTree) (events : List (Event Call)) :
    (played settings editingId hooks directory files events).run.state.editingId = editingId := by
  refine (Exchange.play_induction (P := fun y : FormExchange => y.Orderly Stage.awaits Call.suits ∧
    y.run.state.editingId = editingId) events
    ⟨Exchange.orderly_start (create settings editingId hooks directory files), rfl⟩
    fun y e _ hy => ⟨hy.1.step controller_keeps e, ?_⟩).2
  rw [step_editingId hy.1]
  exact hy.2

/-- While no submission is under way a question for a voucher is that of a load. -/
theorem exists_fetching {x : FormExchange} (h : x.Orderly Stage.awaits Call.suits)
    (hguard : x.run.waiting.countP (fun w => w.2.isSubmission) = x.run.state.submitting.toNat)
    (hfree : x.run.state.submitting = false) {n : Nat} {q : Query}
    (hasked : ⟨n, 0, .query q⟩ ∈ x.pending) :
    ∃ shown, (n, .fetching shown) ∈ x.run.waiting ∧ q = .showVoucher shown := by
  obtain ⟨stage, hw, haw⟩ := h.exists_stage hasked
  rw [hfree, Bool.toNat_false, List.countP_eq_zero] at hguard
  have hask : Ask.query q = stage.ask := ask_of_mem_singleton haw
  cases stage with
  | fetching shown => exact ⟨shown, hw, Ask.query.inj hask⟩
  | _ => exact absurd rfl (hguard _ hw)

/-- While no submission is under way, a voucher that is shown in reply to an open question fills the
form. -/
theorem step_shows {x : FormExchange} (h : x.Orderly Stage.awaits Call.suits)
    (hguard : x.run.waiting.countP (fun w => w.2.isSubmission) = x.run.state.submitting.toNat)
    (hfree : x.run.state.submitting = false) {n : Nat} {shown : Value} {reply : Reply}
    (hasked : ⟨n, 0, .query (.showVoucher shown)⟩ ∈ x.pending) (hshows : Shows shown reply v) :
    (x.step controller (.answer n (.reply 0 reply))).run.state =
      { x.run.state with loading := false, inputs := inputsOf v } := by
  obtain ⟨shown', hw, hsame⟩ := exists_fetching h hguard hfree hasked
  have hloads : Shows shown' reply v := by
    obtain ⟨message, wire, henvelope, hwire⟩ := hshows
    exact ⟨message, wire, hsame ▸ henvelope, hwire⟩
  rw [Exchange.step_answer hasked (Question.isAnsweredBy_reply ..) (h.lookup hw)]
  exact congrArg Turn.state (fetched_of_shows hloads x.run.state)

/-- The events that edit fields of a form. -/
def editing (edits : List (String × Value)) : List (Event Call) :=
  edits.map fun e => .call (.setField e.1 e.2)

/-- After a voucher has been loaded and edited the form shows it under the edits. -/
theorem showsEdited_played (settings : Settings) (id : Int) (hooks : List Hook)
    (directory : String) (files : FileTree) (before : List (Event Call)) {n : Nat}
    {shown : Value} {reply : Reply}
    (hasked : ⟨n, 0, .query (.showVoucher shown)⟩ ∈
      (played settings (.int id) hooks directory files before).pending)
    (hfree : (played settings (.int id) hooks directory files before).run.state.submitting = false)
    (hshows : Shows shown reply v) (hnames : ∀ e ∈ edits, e.1 ∈ Draft.defaults.names) :
    let f := (played settings (.int id) hooks directory files
      (before ++ .answer n (.reply 0 reply) :: editing edits)).run.state
    ShowsEdited id v edits f ∧ f.submitting = false := by
  -- The reply fills the form with the voucher, and the edits are made on that.
  have hfilled := step_shows
    (Exchange.orderly_play controller_keeps (create settings (.int id) hooks directory files)
      before)
    (Exchange.countP_guarded controller_keeps controller_guards rfl before) hfree hasked hshows
  have hnamed : ∀ e ∈ edits, e.1 ∈ ((played settings (.int id) hooks directory files
      before).step controller (.answer n (.reply 0 reply))).run.state.inputs.names := by
    rw [hfilled]
    exact hnames
  intro f
  have hplay : f = (((played settings (.int id) hooks directory files before).step controller
      (.answer n (.reply 0 reply))).play controller (editing edits)).run.state :=
    congrArg (fun y : FormExchange => y.run.state)
      (Exchange.play_append before (.answer n (.reply 0 reply) :: editing edits))
  rw [hplay, editing, play_edits hnamed, hfilled]
  exact ⟨⟨played_editingId settings (.int id) hooks directory files before, rfl⟩, hfree⟩

end VoucherDesk.Form
