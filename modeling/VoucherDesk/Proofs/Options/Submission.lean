import VoucherDesk.Options.Submission
import VoucherDesk.Proofs.Dialogue.Guard
import VoucherDesk.Proofs.Dialogue.Record
import VoucherDesk.Proofs.Options.Batch

/-!
# One batch at a time

A submission of options has the missing replies of its batch open, then its turn, then the
end of the refresh hook. It is loading just while one submission is under way, and a
submission ends only after everything that it asked is answered, so that no batch overlaps
the leftovers of another.
-/

namespace VoucherDesk.Submission

open Dialogue

/-- The open questions of a submission at a stage. -/
def Stage.awaits (number : Nat) : Stage → List Question
  | .collecting b => b.openQuestions number
  | .settling _ => questions number [.pause]
  | .refreshing => questions number [.hook .refresh []]

/-- The ways in which a submission begins. -/
inductive Begins (s : Submission) (call : Call) (t : SubmissionTurn) : Prop where
  /-- Another one is under way. -/
  | busy (loading : s.loading = true)
      (turn : t = (Turn.finish s (.ok .busy)).after [.warning Fault.inProgress.message])
  /-- There is nothing to send, or a key is missing. -/
  | declines (free : s.loading = false) (r : Except Failure Outcome) (next : t.next = .ends r)
      (state : t.state = s) (unsaved : r ≠ .ok .saved)
  /-- The batch of its keys is sent. -/
  | sends (free : s.loading = false) (items : List OptionItem)
      (found : Batch.itemsOf call.current call.keys = .ok items)
      (turn : t = { state := { s with loading := true },
                    next := .waits (Batch.ofItems items).asks (.collecting (Batch.ofItems items)) })

/-- Every submission begins in one of those ways. -/
theorem begin_begins (s : Submission) (call : Call) : Begins s call (s.begin call) := by
  unfold Submission.begin Batch.accept
  cases hloading : s.loading with
  | true => exact .busy hloading rfl
  | false =>
    cases hempty : call.keys.isEmpty with
    | true => exact .declines hloading _ rfl rfl (by simp)
    | false =>
      cases hitems : Batch.itemsOf call.current call.keys with
      | error e => exact .declines hloading _ rfl rfl (by simp)
      | ok items => exact .sends hloading items hitems rfl

/-- The ways in which a submission goes on from a stage. -/
inductive Resumes (s : Submission) (stage : Stage) (a : Answer) (t : SubmissionTurn) : Prop where
  /-- A reply is taken and others are missing. -/
  | collects (b : Batch) (place : Nat) (r : Reply) (collecting : stage = .collecting b)
      (reply : a = .reply place r)
      (turn : t = { state := s, next := .waits [] (.collecting (b.put place r)) })
  /-- The last reply is taken. -/
  | completes (b : Batch) (place : Nat) (r : Reply) (collecting : stage = .collecting b)
      (reply : a = .reply place r) (complete : (b.put place r).isComplete = true)
      (turn : t = .waitFor s .pause (.settling (b.put place r)))
  /-- The batch is saved and the refresh hook is called. -/
  | refreshes (b : Batch) (settling : stage = .settling b) (hooked : s.refreshes = true)
      (next : t.next = .waits [.hook .refresh []] .refreshing) (state : t.state = s)
  /-- The submission ends; after a saved batch, only when the refresh hook has. -/
  | ends (settled : ∀ b, stage ≠ .collecting b) (r : Except Failure Outcome)
      (next : t.next = .ends r) (state : t.state = { s with loading := false })
      (refreshed : r = .ok .saved → s.refreshes = true → stage = .refreshing)
  /-- An answer that the stage does not wait for changes nothing. -/
  | ignored (unfit : ∀ n, ∀ q ∈ stage.awaits n, q.isAnsweredBy n a = false)
      (turn : t = { state := s, next := .waits [] stage })

/-- A reply that comes while others are missing, or the last one. -/
theorem collect_resumes (s : Submission) (b : Batch) (place : Nat) (r : Reply) :
    Resumes s (.collecting b) (.reply place r) (b.collect s .collecting .settling place r) := by
  cases h : (b.put place r).isComplete with
  | true => exact .completes b place r rfl rfl h (Batch.collect_of_complete h)
  | false => exact .collects b place r rfl rfl (Batch.collect_of_incomplete h)

/-- A batch that is settled ends its submission, unless it is saved and there is a hook. -/
theorem settle_resumes (s : Submission) (b : Batch) :
    Resumes s (.settling b) .resumed (b.settle s.finish s.saved) := by
  cases hverdict : Batch.verdict b.results with
  | mk effects verdict =>
    cases verdict with
    | some r =>
      rw [Batch.settle_of_some hverdict]
      have hunsaved := Batch.verdict_ne_saved hverdict
      exact .ends (by simp) r rfl rfl fun hsaved => absurd hsaved hunsaved
    | none =>
      rw [Batch.settle_of_none hverdict, saved]
      split
      · next hhooked => exact .refreshes b rfl hhooked rfl rfl
      · next hhooked => exact .ends (by simp) _ rfl rfl fun _ h => absurd h hhooked

/-- Every later turn of a submission is one of those ways. -/
theorem resume_resumes (s : Submission) (stage : Stage) (a : Answer) :
    Resumes s stage a (s.resume stage a) := by
  cases stage with
  | collecting b =>
    cases a with
    | reply place r => exact collect_resumes s b place r
    | ended r => exact .ignored (Batch.isAnsweredBy_of_no_reply (by simp)) rfl
    | line text => exact .ignored (Batch.isAnsweredBy_of_no_reply (by simp)) rfl
    | resumed => exact .ignored (Batch.isAnsweredBy_of_no_reply (by simp)) rfl
  | settling b =>
    cases a with
    | resumed => exact settle_resumes s b
    | reply place r => exact .ignored (fun _ => isAnsweredBy_singleton rfl) rfl
    | ended r => exact .ignored (fun _ => isAnsweredBy_singleton rfl) rfl
    | line text => exact .ignored (fun _ => isAnsweredBy_singleton rfl) rfl
  | refreshing =>
    cases a with
    | ended r => exact .ends (by simp) _ rfl rfl fun _ _ => rfl
    | reply place r => exact .ignored (fun _ => isAnsweredBy_singleton rfl) rfl
    | line text => exact .ignored (fun _ => isAnsweredBy_singleton rfl) rfl
    | resumed => exact .ignored (fun _ => isAnsweredBy_singleton rfl) rfl

/-- A submission that ends with its first turn is turned away, or leaves nothing loading; it is
never saved. -/
theorem begin_ends {s : Submission} {call : Call} {r : Except Failure Outcome}
    (h : (s.begin call).next = .ends r) :
    (r = .ok .busy ∨ (s.begin call).state.loading = false) ∧ r ≠ .ok .saved := by
  cases begin_begins s call with
  | busy loading turn =>
    rw [turn] at h
    cases h
    exact ⟨Or.inl rfl, by simp⟩
  | declines free r' next state unsaved =>
    cases next.symm.trans h
    exact ⟨Or.inr (by rw [state, free]), unsaved⟩
  | sends free items found turn =>
    rw [turn] at h
    cases h

/-- A submission that ends with a later turn has all its replies and leaves nothing loading; if it
is saved, the refresh hook has ended. -/
theorem resume_ends {s : Submission} {stage : Stage} {a : Answer} {r : Except Failure Outcome}
    (h : (s.resume stage a).next = .ends r) :
    (∀ b, stage ≠ .collecting b) ∧ (s.resume stage a).state.loading = false ∧
      (r = .ok .saved → s.refreshes = true → stage = .refreshing) := by
  cases resume_resumes s stage a with
  | collects b place r' collecting reply turn =>
    rw [turn] at h
    cases h
  | completes b place r' collecting reply complete turn =>
    rw [turn] at h
    cases h
  | refreshes b settling hooked next state => cases next.symm.trans h
  | ends settled r' next state refreshed =>
    cases next.symm.trans h
    exact ⟨settled, by rw [state], refreshed⟩
  | ignored unfit turn =>
    rw [turn] at h
    cases h

/-- A submission has just the questions open that its stage awaits, and ends with none. -/
theorem controller_keeps : controller.Keeps Stage.awaits fun _ _ => True where
  begin_waits := by
    intro s call asks stage hnext
    refine ⟨trivial, fun n => ?_⟩
    cases begin_begins s call with
    | busy loading turn =>
      have hturn : (s.begin call).next = .waits asks stage := hnext
      rw [turn] at hturn
      cases hturn
    | declines free r next state unsaved => cases next.symm.trans hnext
    | sends free items found turn =>
      have hturn : (s.begin call).next = .waits asks stage := hnext
      rw [turn] at hturn
      cases hturn
      exact Batch.openQuestions_ofItems n items
  resume_waits := by
    intro s call stage n a asks stage' _ hans hnext
    refine ⟨trivial, ?_⟩
    have hturn : (s.resume stage a).next = .waits asks stage' := hnext
    cases resume_resumes s stage a with
    | collects b place r collecting reply turn =>
      rw [turn] at hturn
      cases hturn
      subst collecting reply
      rw [questions_nil, List.append_nil]
      exact Batch.openQuestions_put n b place r
    | completes b place r collecting reply complete turn =>
      rw [turn] at hturn
      cases hturn
      subst collecting reply
      have hnone := Batch.openQuestions_put n b place r
      rw [Batch.openQuestions_of_isComplete n complete] at hnone
      simp only [Stage.awaits, ← hnone, List.nil_append]
    | refreshes b settling hooked next state =>
      cases next.symm.trans hturn
      subst settling
      simp only [Stage.awaits] at hans ⊢
      rw [(fits_of_singleton hans).2, List.nil_append]
    | ends settled r next state refreshed => cases next.symm.trans hturn
    | ignored unfit turn =>
      obtain ⟨q, hq, hfits⟩ := hans
      exact absurd ((unfit n q hq).symm.trans hfits) Bool.false_ne_true
  resume_ends := by
    intro s call stage n a r _ hans hnext
    have hturn : (s.resume stage a).next = .ends r := hnext
    cases stage with
    | settling b => exact (fits_of_singleton hans).2
    | refreshing => exact (fits_of_singleton hans).2
    | collecting b => exact absurd rfl ((Submission.resume_ends hturn).1 b)

/-- A submission is loading just while it is under way. -/
theorem controller_guards : controller.Guards Submission.loading fun _ => true where
  begin_free := by
    intro s call hat
    have hturn : (s.begin call).isAt (fun _ => true) = true := hat
    cases begin_begins s call with
    | busy loading turn =>
      rw [turn] at hturn
      cases hturn
    | declines free r next state unsaved => exact free
    | sends free items found turn => exact free
  begin_flag := by
    intro s call
    show (s.begin call).state.loading = (s.loading || (s.begin call).isAt fun _ => true)
    cases begin_begins s call with
    | busy loading turn =>
      rw [turn]
      simp [Turn.after, Turn.finish, Turn.isAt]
    | declines free r next state unsaved => simp [Turn.isAt, next, state]
    | sends free items found turn =>
      rw [turn]
      simp [Turn.isAt]
  resume_held := by
    intro s stage a _ hloading
    show (s.resume stage a).state.loading = (s.resume stage a).isAt fun _ => true
    cases resume_resumes s stage a with
    | collects b place r collecting reply turn =>
      rw [turn]
      exact hloading
    | completes b place r collecting reply complete turn =>
      rw [turn]
      exact hloading
    | refreshes b settling hooked next state => simp [Turn.isAt, next, state, hloading]
    | ends settled r next state refreshed => simp [Turn.isAt, next, state]
    | ignored unfit turn =>
      rw [turn]
      exact hloading
  resume_free := fun _ h => absurd h (by simp)

/-- Submissions of options with all that has happened. -/
abbrev SubmissionExchange := Exchange Submission Call Stage Outcome

/-- The exchange after a submission that is turned away: it is told to be busy after one warning. -/
def turnedAway (x : SubmissionExchange) (call : Call) : SubmissionExchange :=
  x.turnedAway call [.warning "A submission is already in progress"] (.ok .busy)

/-- The exchanges of submissions from their first moment. -/
abbrev played (refreshes : Bool) (events : List (Event Call)) : SubmissionExchange :=
  (Exchange.start { refreshes }).play controller events

variable {x : SubmissionExchange}

/-- A submission that finds another one under way is turned away, whatever its keys are. -/
theorem step_call_of_loading (h : x.Orderly Stage.awaits fun _ _ => True)
    (hloading : x.run.state.loading = true) (call : Call) :
    x.step controller (.call call) = turnedAway x call := by
  have hturn : controller.begin x.run.state call =
      (Turn.finish x.run.state (.ok .busy)).after [.warning Fault.inProgress.message] := by
    show x.run.state.begin call = _
    cases begin_begins x.run.state call with
    | busy loading turn => exact turn
    | declines free r next state unsaved => simp [hloading] at free
    | sends free items found turn => simp [hloading] at free
  rw [Exchange.step_call, hturn]
  exact h.begins_of_finish ..

/-- After every way in which a submission that was let in ends, none is loading. -/
theorem loading_of_ended (h : x.Orderly Stage.awaits fun _ _ => True) {e : Event Call} {n : Nat}
    {r : Except Failure Outcome}
    (hended : (x.step controller e).run.ended = x.run.ended ++ [(n, r)]) (hr : r ≠ .ok .busy) :
    (x.step controller e).run.state.loading = false := by
  cases e with
  | call call =>
    rw [Exchange.step_call] at hended ⊢
    have hmem : (n, r) ∈ (controller.begin x.run.state call).endsAs x.run.begun := by
      rw [List.append_cancel_left hended]
      exact List.mem_singleton_self _
    exact (begin_ends (Turn.mem_endsAs.mp hmem).1).1.resolve_left hr
  | answer m a =>
    rcases h.answer_cases controller m a with hsame | ⟨q, stage, -, -, -, -, hstep⟩
    · rw [hsame] at hended
      exact absurd hended (by simp)
    · rw [hstep] at hended ⊢
      have hmem : (n, r) ∈ (controller.resume x.run.state stage a).endsAs m := by
        rw [List.append_cancel_left hended]
        exact List.mem_singleton_self _
      exact (resume_ends (Turn.mem_endsAs.mp hmem).1).2.1

/-- No turn changes whether there is a refresh hook. -/
theorem begin_refreshes (s : Submission) (call : Call) :
    (s.begin call).state.refreshes = s.refreshes := by
  cases begin_begins s call with
  | busy loading turn => rw [turn]; rfl
  | declines free r next state unsaved => rw [state]
  | sends free items found turn => rw [turn]

@[inherit_doc begin_refreshes]
theorem resume_refreshes (s : Submission) (stage : Stage) (a : Answer) :
    (s.resume stage a).state.refreshes = s.refreshes := by
  cases resume_resumes s stage a with
  | collects b place r collecting reply turn => rw [turn]
  | completes b place r collecting reply complete turn => rw [turn]; rfl
  | refreshes b settling hooked next state => rw [state]
  | ends settled r next state refreshed => rw [state]
  | ignored unfit turn => rw [turn]

/-- A submission is saved only after the refresh hook has ended, if there is one. -/
structure Refreshed (refreshes : Bool) (x : SubmissionExchange) : Prop where
  hooked : x.run.state.refreshes = refreshes
  answered : ∀ n, (n, .ok .saved) ∈ x.run.ended → refreshes = true →
    ∃ a, .answered ⟨n, 0, .hook .refresh []⟩ a ∈ x.history

/-- Every event keeps that order. -/
theorem Refreshed.step {refreshes : Bool} (h : x.Orderly Stage.awaits fun _ _ => True)
    (hx : Refreshed refreshes x) (e : Event Call) : Refreshed refreshes (x.step controller e) := by
  cases e with
  | call call =>
    rw [Exchange.step_call]
    refine ⟨(begin_refreshes _ call).trans hx.hooked, fun n hn hhook => ?_⟩
    rcases List.mem_append.mp hn with hold | hnew
    · obtain ⟨a, ha⟩ := hx.answered n hold hhook
      exact ⟨a, List.mem_append_left _ ha⟩
    · exact absurd rfl (begin_ends (Turn.mem_endsAs.mp hnew).1).2
  | answer m a =>
    rcases h.answer_cases controller m a with hsame | ⟨q, stage, hq, hans, -, haw, hstep⟩
    · rwa [hsame]
    · rw [hstep]
      refine ⟨(resume_refreshes _ stage a).trans hx.hooked, fun n hn hhook => ?_⟩
      rcases List.mem_append.mp hn with hold | hnew
      · obtain ⟨b, hb⟩ := hx.answered n hold hhook
        exact ⟨b, List.mem_append_left _ (List.mem_append_left _ hb)⟩
      · obtain ⟨hnext, rfl⟩ := Turn.mem_endsAs.mp hnew
        obtain rfl : stage = .refreshing :=
          (resume_ends hnext).2.2 rfl (hx.hooked.trans hhook)
        rw [Stage.awaits, questions_singleton, List.mem_singleton] at haw
        subst haw
        refine ⟨a, List.mem_append_left _ (List.mem_append_right _ ?_)⟩
        exact List.mem_map.mpr ⟨_, List.mem_filter.mpr ⟨hq, hans⟩, rfl⟩

/-- After all events a saved submission has had its refresh. -/
theorem refreshed_played (refreshes : Bool) (events : List (Event Call)) :
    Refreshed refreshes (played refreshes events) :=
  (Exchange.play_induction
    (P := fun y => y.Orderly Stage.awaits (fun _ _ => True) ∧ Refreshed refreshes y) events
    ⟨Exchange.orderly_start _, rfl, fun _ h => absurd h List.not_mem_nil⟩
    fun _ e _ hy => ⟨hy.1.step controller_keeps e, hy.2.step hy.1 e⟩).2

/-- However submissions and the answers to them are interleaved, everything that is open belongs to
one of them, and one ends only after everything that it asked is answered, a saved one after the
refresh hook has ended. It is loading just while one is under way and no longer after any way of
ending, and meanwhile every other submission is turned away. -/
theorem one_batch_at_a_time (refreshes : Bool) (events : List (Event Call)) :
    let x := played refreshes events
    (∀ p ∈ x.pending, ∀ q ∈ x.pending, p.number = q.number) ∧
    (∀ n r, (n, r) ∈ x.run.ended → ∀ q found, .asked q found ∈ x.history → q.number = n →
      ∃ a, .answered q a ∈ x.history) ∧
    (∀ n, (n, .ok .saved) ∈ x.run.ended → refreshes = true →
      ∃ a, .answered ⟨n, 0, .hook .refresh []⟩ a ∈ x.history) ∧
    (x.run.state.loading = true ↔ x.run.waiting ≠ []) ∧
    (∀ e n r, (x.step controller e).run.ended = x.run.ended ++ [(n, r)] → r ≠ .ok .busy →
      (x.step controller e).run.state.loading = false) ∧
    (x.run.state.loading = true → ∀ call, x.step controller (.call call) = turnedAway x call) := by
  intro x
  have hord : x.Orderly Stage.awaits fun _ _ => True :=
    Exchange.orderly_play controller_keeps { refreshes } events
  have hcount : x.run.waiting.length = x.run.state.loading.toNat := by
    have hguarded := Exchange.countP_guarded controller_keeps controller_guards
      (s := { refreshes }) rfl events
    rw [List.countP_true] at hguarded
    exact hguarded
  refine ⟨?_, ?_, ?_, ?_, fun e n r => loading_of_ended hord, step_call_of_loading hord⟩
  · intro p hp q hq
    obtain ⟨w, hw, hwp⟩ := List.mem_map.mp (hord.waiting_of_pending p hp)
    obtain ⟨w', hw', hwq⟩ := List.mem_map.mp (hord.waiting_of_pending q hq)
    have hone : x.run.waiting.length ≤ 1 := hcount ▸ Bool.toNat_le _
    rw [← hwp, ← hwq, eq_of_mem_of_length_le_one hone hw hw']
  · intro n r hended q found hasked hnumber
    rcases Exchange.asked_pending_or_answered controller_keeps { refreshes } events q found hasked
      with hpending | hanswered
    · exact absurd (hnumber ▸ hord.waiting_of_pending q hpending) (hord.ended_lt _ hended).2
    · exact hanswered
  · exact (refreshed_played refreshes events).answered
  · rw [← List.length_pos_iff, hcount]
    cases x.run.state.loading with
    | true => simp
    | false => simp

end VoucherDesk.Submission
