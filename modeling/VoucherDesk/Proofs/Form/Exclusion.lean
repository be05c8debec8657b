import VoucherDesk.Proofs.Form.Turns
import VoucherDesk.Proofs.Voucher.Draft

/-!
# One submission at a time

At every moment at most one submission of a form is under way, from the turn that builds its
voucher until its last hook has ended, and nothing else writes or calls hooks. While one is
under way every other submission is turned away with a warning and changes nothing; once it
has ended, in whatever way, the next one is let in.
-/

namespace VoucherDesk.Form

open Dialogue

/-- A form with its calls and all that has happened. -/
abbrev FormExchange := Exchange Form Call Stage Result

/-- Whether a question only asks the server to show something; all others write or call a hook. -/
def isRead (q : Question) : Bool :=
  match q.ask with
  | .query q => q.method == .get
  | _ => false

/-- The query that a submission of the form sends, or why there is none. -/
def prepared (f : Form) : Except Failure Query := do
  let v ← f.build
  f.saveQuery v

/-- What happens when there is nothing to send: a fault of the draft is told, any other failure goes
through. -/
def refusal (n : Nat) : Failure → List (Occurrence Form Result)
  | .fault e =>
    if e.isValidation then [.effect n (.error e.message), .ended n (.ok (.accepted false))]
    else [.ended n (.error (.fault e))]
  | e => [.ended n (.error e)]

/-- The exchange after a submission that is turned away: it gives `false` after one warning. -/
def turnedAway (x : FormExchange) : FormExchange :=
  x.turnedAway .submit [.warning "A submission is already in progress"] (.ok (.accepted false))

/-- The next submission is let in: it sends the query of the draft and is under way, unless there is
nothing to send. -/
structure LetsIn (x : FormExchange) : Prop where
  sends : ∀ q, x.run.state.prepared = .ok q →
    (x.step controller (.call .submit)).pending = x.pending ++ [⟨x.run.begun, 0, .query q⟩] ∧
      (x.step controller (.call .submit)).underWay Call.isSubmit = [x.run.begun]
  refuses : ∀ e, x.run.state.prepared = .error e →
    (x.step controller (.call .submit)).history = x.history ++ refusal x.run.begun e

/-- The exchanges of a form from the moment it is created. -/
abbrev played (settings : Settings) (editingId : Value) (hooks : List Hook) (directory : String)
    (files : FileTree) (events : List (Event Call)) : FormExchange :=
  (Exchange.start (create settings editingId hooks directory files)).play controller events

variable {x : FormExchange}

/-- A question that is more than a reading one belongs to a submission that is under way. -/
theorem number_mem_underWay (h : x.Orderly Stage.awaits Call.suits) {q : Question}
    (hq : q ∈ x.pending) (hread : isRead q = false) : q.number ∈ x.underWay Call.isSubmit := by
  obtain ⟨stage, hw, haw⟩ := h.exists_stage hq
  obtain ⟨call, hcall, hsuits⟩ := h.suits _ hw
  have hask : q.ask = stage.ask := by
    rw [Stage.awaits, questions_singleton, List.mem_singleton] at haw
    rw [haw]
  have hsub : stage.isSubmission = true := by
    cases stage with
    | fetching id => simp [isRead, hask, Stage.ask, Query.showVoucher] at hread
    | _ => rfl
  exact Exchange.mem_underWay.mpr
    ⟨List.mem_map_of_mem hw, call, hcall, (show _ = _ from hsuits).symm.trans hsub⟩

/-- At most one question is open that is more than a reading one, if at most one submission is under
way. -/
theorem length_writes_le_one (h : x.Orderly Stage.awaits Call.suits)
    (hone : (x.underWay Call.isSubmit).length ≤ 1) :
    (x.pending.filter fun q => !isRead q).length ≤ 1 := by
  cases hlist : x.pending.filter fun q => !isRead q with
  | nil => exact Nat.zero_le _
  | cons q rest =>
    have hmem : ∀ p ∈ q :: rest, p ∈ x.pending ∧ p.number ∈ x.underWay Call.isSubmit := by
      intro p hp
      obtain ⟨hpending, hread⟩ := List.mem_filter.mp (hlist ▸ hp)
      exact ⟨hpending, number_mem_underWay h hpending (by simpa using hread)⟩
    have hnumber : ∀ p ∈ q :: rest, p.number = q.number := fun p hp =>
      eq_of_mem_of_length_le_one hone (hmem p hp).2 (hmem q (List.mem_cons_self ..)).2
    -- All of them are open questions of one call, which has only one.
    obtain ⟨stage, hw, -⟩ := h.exists_stage (hmem q (List.mem_cons_self ..)).1
    have hown : (q :: rest).filter (·.number == q.number) = q :: rest :=
      List.filter_eq_self.mpr fun p hp => by simpa using hnumber p hp
    have hsub : (q :: rest).Sublist (x.pendingOf q.number) := by
      rw [← hown, ← hlist]
      exact List.filter_sublist.filter _
    have hlen := hsub.length_le
    rw [h.pendingOf _ hw] at hlen
    simpa [Stage.awaits] using hlen

/-- A submission that finds another one under way is turned away. -/
theorem step_submit_of_submitting (h : x.Orderly Stage.awaits Call.suits)
    (hsub : x.run.state.submitting = true) :
    x.step controller (.call .submit) = turnedAway x := by
  have hturn : controller.begin x.run.state .submit =
      (Turn.finish x.run.state (.ok (.accepted false))).after
        [.warning Fault.inProgress.message] := by
    simp only [controller, Form.begin, Form.submit, hsub, ite_true]
  rw [Exchange.step_call, hturn]
  exact h.begins_of_finish ..

/-- A voucher that cannot be sent has no number. -/
theorem saveQuery_eq_error {f : Form} {v : Voucher} {e : Failure}
    (h : f.saveQuery v = .error e) : e = .updateWithoutId := by
  unfold Form.saveQuery at h
  split at h
  · unfold Voucher.updatePayload at h
    split at h
    · cases h
    · cases h
      rfl
  · cases h

/-- A submission that is let in with nothing to send ends at once and says why. -/
private theorem occurrences_of_nothing {f : Form} (hsub : f.submitting = false) {e : Failure}
    (he : f.prepared = .error e) (n : Nat) :
    (controller.begin f .submit).occurrences n = refusal n e := by
  simp only [controller, Form.begin, Form.submit, hsub, Bool.false_eq_true, ite_false]
  cases hbuild : f.build with
  | error e' =>
    obtain rfl : e' = e := by simpa [prepared, hbuild, bind, Except.bind] using he
    cases e' with
    | fault fault =>
      cases hvalid : fault.isValidation with
      | true => simp [hvalid, refusal, Turn.occurrences, Turn.after, Turn.finish, Turn.asks,
          Turn.endsAs]
      | false => simp [hvalid, refusal, Turn.occurrences, Turn.finish, Turn.asks, Turn.endsAs]
    | _ => rfl
  | ok v =>
    have hquery : f.saveQuery v = .error e := by
      simpa [prepared, hbuild, bind, Except.bind] using he
    obtain rfl := saveQuery_eq_error hquery
    simp only [hquery]
    rfl

/-- A submission that finds no other one under way is let in. -/
theorem letsIn_of_not_submitting (h : x.Orderly Stage.awaits Call.suits)
    (hsub : x.run.state.submitting = false) (hnone : x.underWay Call.isSubmit = []) : LetsIn x := by
  constructor
  · intro q hq
    obtain ⟨v, hbuild, hquery⟩ := bind_eq_ok.mp hq
    have hturn : controller.begin x.run.state .submit =
        .waitFor { x.run.state with submitting := true, loading := true } (.query q)
          (.saving v q) := by
      simp only [controller, Form.begin, Form.submit, hsub, hbuild, hquery, Bool.false_eq_true,
        ite_false]
    rw [Exchange.step_call, hturn]
    exact ⟨rfl, by rw [h.underWay_begins, hnone]; rfl⟩
  · intro e he
    rw [Exchange.step_call]
    simp only [Exchange.begins, occurrences_of_nothing hsub he]

/-- However the calls of a form and the answers to them are interleaved, at most one submission is
under way and every open question that writes or calls a hook belongs to it. A submission that
finds another one under way is turned away, and one that finds none is let in; in particular the
next one after a submission has ended in any way. -/
theorem one_submission_at_a_time (settings : Settings) (editingId : Value) (hooks : List Hook)
    (directory : String) (files : FileTree) (events : List (Event Call)) :
    let x := played settings editingId hooks directory files events
    (x.underWay Call.isSubmit).length ≤ 1 ∧
    (x.pending.filter fun q => !isRead q).length ≤ 1 ∧
    (∀ q ∈ x.pending, isRead q = false → q.number ∈ x.underWay Call.isSubmit) ∧
    (x.underWay Call.isSubmit ≠ [] → x.step controller (.call .submit) = turnedAway x) ∧
    (x.underWay Call.isSubmit = [] → LetsIn x) ∧
    ∀ e n, n ∈ x.underWay Call.isSubmit → n ∉ (x.step controller e).underWay Call.isSubmit →
      LetsIn (x.step controller e) := by
  have hcount (events : List (Event Call)) := Exchange.length_underWay_guarded
    Call.isSubmit (s := create settings editingId hooks directory files) controller_keeps
    controller_guards (fun hsuits => Eq.symm hsuits) rfl events
  have hord (events : List (Event Call)) := Exchange.orderly_play controller_keeps
    (create settings editingId hooks directory files) events
  have hlets (events : List (Event Call))
      (hnone : (played settings editingId hooks directory files events).underWay
        Call.isSubmit = []) : LetsIn (played settings editingId hooks directory files events) := by
    refine letsIn_of_not_submitting (hord events) ?_ hnone
    have hzero := hcount events
    rw [hnone] at hzero
    simpa using hzero.symm
  intro x
  have hone : (x.underWay Call.isSubmit).length ≤ 1 := by
    rw [hcount events]
    exact Bool.toNat_le _
  refine ⟨hone, length_writes_le_one (hord events) hone,
    fun q hq => number_mem_underWay (hord events) hq, fun hsome => ?_, hlets events, ?_⟩
  · refine step_submit_of_submitting (hord events) ?_
    cases hflag : x.run.state.submitting with
    | true => rfl
    | false =>
      have hzero := hcount events
      rw [hflag, Bool.toNat_false, List.length_eq_zero_iff] at hzero
      exact absurd hzero hsome
  · intro e n hn hends
    have hnext : x.step controller e =
        played settings editingId hooks directory files (events ++ [e]) := by
      rw [played, Exchange.play_append]
      rfl
    have hnil := (hord events).underWay_eq_nil hone hn hends
    rw [hnext] at hnil ⊢
    exact hlets _ hnil

end VoucherDesk.Form
