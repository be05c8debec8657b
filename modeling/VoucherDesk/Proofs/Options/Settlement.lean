import VoucherDesk.Proofs.Options.Submission
import VoucherDesk.Proofs.Dialogue.Deeds
import VoucherDesk.Client.Basic

/-!
# How a batch is settled

A submission that is let in sends one query for each key, in the order of the keys. When all
replies are there it is settled by the results in that order alone, whatever the order of the
replies was and whatever else was submitted meanwhile.
-/

namespace VoucherDesk.Submission

open Dialogue

/-- What a submission does once all results are there, in the order of its keys; `back` is how the
refresh hook ends, if there is one. -/
inductive Settles (results : List (Except Failure Envelope)) (refreshes : Bool)
    (back : Except Failure Value) : List (Deed Outcome) → Prop where
  /-- The first failure is a fault. -/
  | fault (before after : List (Except Failure Envelope)) (fault : Fault)
      (first : results = before ++ .error (.fault fault) :: after)
      (earlier : ∀ r ∈ before, ∃ envelope, r = .ok envelope) :
      Settles results refreshes back
        [.has (.error "Save failed, please retry"), .gives (.ok .error)]
  /-- The first failure is none that the operator is told. -/
  | failure (before after : List (Except Failure Envelope)) (e : Failure)
      (first : results = before ++ .error e :: after)
      (earlier : ∀ r ∈ before, ∃ envelope, r = .ok envelope) (other : ∀ fault, e ≠ .fault fault) :
      Settles results refreshes back [.gives (.error e)]
  /-- The only option is refused. -/
  | refused (envelope : Envelope) (only : results = [.ok envelope])
      (refused : envelope.success = false) :
      Settles results refreshes back [.has (.error envelope.message), .gives (.ok .failed)]
  /-- Some of several options are refused, and nothing failed. -/
  | partlyRefused (envelope : Envelope) (replied : ∀ r ∈ results, ∃ envelope, r = .ok envelope)
      (among : .ok envelope ∈ results) (refused : envelope.success = false)
      (several : 1 < results.length) :
      Settles results refreshes back
        [.has (.error "Some changes failed to save, please retry"), .gives (.ok .partly)]
  /-- All options are accepted, and there is no hook. -/
  | saved (accepted : ∀ r ∈ results, ∃ envelope, r = .ok envelope ∧ envelope.success = true)
      (unhooked : refreshes = false) :
      Settles results refreshes back [.has (.success "Saved"), .gives (.ok .saved)]
  /-- All options are accepted, and the hook ends well. -/
  | refreshed (v : Value)
      (accepted : ∀ r ∈ results, ∃ envelope, r = .ok envelope ∧ envelope.success = true)
      (hooked : refreshes = true) (returns : back = .ok v) :
      Settles results refreshes back
        [.has (.success "Saved"), .calls .refresh [], .gives (.ok .saved)]
  /-- All options are accepted, and the hook ends with a fault. -/
  | refreshFault (fault : Fault)
      (accepted : ∀ r ∈ results, ∃ envelope, r = .ok envelope ∧ envelope.success = true)
      (hooked : refreshes = true) (raises : back = .error (.fault fault)) :
      Settles results refreshes back
        [.has (.success "Saved"), .calls .refresh [], .has (.error fault.message),
          .gives (.ok .saved)]
  /-- All options are accepted, and the hook ends with another failure. -/
  | refreshFailure (e : Failure)
      (accepted : ∀ r ∈ results, ∃ envelope, r = .ok envelope ∧ envelope.success = true)
      (hooked : refreshes = true) (raises : back = .error e) (other : ∀ fault, e ≠ .fault fault) :
      Settles results refreshes back
        [.has (.success "Saved"), .calls .refresh [], .gives (.error e)]

/-- Results have a first failure or are all envelopes. -/
theorem first_failure_or_envelopes (results : List (Except Failure Envelope)) :
    (∃ before e after, results = before ++ .error e :: after ∧
      ∀ r ∈ before, ∃ envelope, r = .ok envelope) ∨
    ∀ r ∈ results, ∃ envelope, r = .ok envelope := by
  induction results with
  | nil => exact Or.inr (List.forall_mem_nil _)
  | cons r rest ih =>
    cases r with
    | error e => exact Or.inl ⟨[], e, rest, rfl, List.forall_mem_nil _⟩
    | ok envelope =>
      rcases ih with ⟨before, e, after, rfl, hbefore⟩ | hall
      · refine Or.inl ⟨.ok envelope :: before, e, after, rfl, ?_⟩
        exact List.forall_mem_cons.mpr ⟨⟨envelope, rfl⟩, hbefore⟩
      · exact Or.inr (List.forall_mem_cons.mpr ⟨⟨envelope, rfl⟩, hall⟩)

/-- Every batch that is not empty is settled in some way. -/
theorem Settles.exists {results : List (Except Failure Envelope)} (hne : results ≠ [])
    (refreshes : Bool) (back : Except Failure Value) :
    ∃ deeds, Settles results refreshes back deeds := by
  rcases first_failure_or_envelopes results with ⟨before, e, after, hfirst, hbefore⟩ | hall
  · by_cases hfault : ∃ fault, e = .fault fault
    · obtain ⟨fault, rfl⟩ := hfault
      exact ⟨_, .fault before after fault hfirst hbefore⟩
    · exact ⟨_, .failure before after e hfirst hbefore fun fault he => hfault ⟨fault, he⟩⟩
  · by_cases hrefused : ∃ envelope, .ok envelope ∈ results ∧ envelope.success = false
    · obtain ⟨envelope, hmem, hrefused⟩ := hrefused
      by_cases hseveral : 1 < results.length
      · exact ⟨_, .partlyRefused envelope hall hmem hrefused hseveral⟩
      · have hone : results.length = 1 := by
          have hpos := List.length_pos_iff.mpr hne
          omega
        obtain ⟨r, hr⟩ := List.length_eq_one_iff.mp hone
        obtain rfl : .ok envelope = r := List.mem_singleton.mp (hr ▸ hmem)
        exact ⟨_, .refused envelope hr hrefused⟩
    · have haccepted : ∀ r ∈ results, ∃ envelope, r = .ok envelope ∧ envelope.success = true := by
        intro r hr
        obtain ⟨envelope, rfl⟩ := hall r hr
        refine ⟨envelope, rfl, ?_⟩
        cases hsuccess : envelope.success with
        | true => rfl
        | false => exact absurd ⟨envelope, hr, hsuccess⟩ hrefused
      cases refreshes with
      | false => exact ⟨_, .saved haccepted rfl⟩
      | true =>
        cases back with
        | ok v => exact ⟨_, .refreshed v haccepted rfl rfl⟩
        | error e =>
          by_cases hfault : ∃ fault, e = .fault fault
          · obtain ⟨fault, rfl⟩ := hfault
            exact ⟨_, .refreshFault fault haccepted rfl rfl⟩
          · exact ⟨_, .refreshFailure e haccepted rfl rfl fun fault he => hfault ⟨fault, he⟩⟩

/-- The turn that settles a complete batch does what the results in order make it do; a saved batch
is left to the refresh hook, if there is one. -/
theorem settle_deeds {s : Submission} {b : Batch} {back : Except Failure Value}
    {deeds : List (Deed Outcome)}
    (h : Settles (b.results.map Prod.snd) s.refreshes back deeds) :
    ((∃ r, (b.settle s.finish s.saved).next = .ends r) ∧
        (b.settle s.finish s.saved).deeds = deeds) ∨
      ((b.settle s.finish s.saved).next = .waits [.hook .refresh []] .refreshing ∧
        (b.settle s.finish s.saved).state = s ∧
        (b.settle s.finish s.saved).deeds ++ (s.refreshed back).deeds = deeds) := by
  cases h with
  | fault before after fault first earlier =>
    obtain ⟨entry, hverdict⟩ := Batch.verdict_of_fault first earlier
    rw [Batch.settle_of_some hverdict]
    exact Or.inl ⟨⟨_, rfl⟩, rfl⟩
  | failure before after e first earlier other =>
    rw [Batch.settle_of_some (Batch.verdict_of_failure first earlier other)]
    exact Or.inl ⟨⟨_, rfl⟩, rfl⟩
  | refused envelope only refused =>
    obtain ⟨entry, hverdict⟩ := Batch.verdict_of_refusal only refused
    rw [Batch.settle_of_some hverdict]
    exact Or.inl ⟨⟨_, rfl⟩, rfl⟩
  | partlyRefused envelope replied among refused several =>
    obtain ⟨entries, hverdict⟩ := Batch.verdict_of_refusals replied among refused several
    rw [Batch.settle_of_some hverdict]
    refine Or.inl ⟨⟨_, rfl⟩, ?_⟩
    simp only [Turn.deeds, Turn.after, Submission.finish, Turn.finish, Turn.asks, Turn.ending,
      List.append_nil, List.filterMap_append, Effect.filterMap_log]
    rfl
  | saved accepted unhooked =>
    obtain ⟨entry, hverdict⟩ := Batch.verdict_of_accepted accepted
    rw [Batch.settle_of_none hverdict, Submission.saved, unhooked]
    exact Or.inl ⟨⟨_, rfl⟩, rfl⟩
  | refreshed v accepted hooked returns =>
    obtain ⟨entry, hverdict⟩ := Batch.verdict_of_accepted accepted
    rw [Batch.settle_of_none hverdict, Submission.saved, hooked, returns]
    exact Or.inr ⟨rfl, rfl, rfl⟩
  | refreshFault fault accepted hooked raises =>
    obtain ⟨entry, hverdict⟩ := Batch.verdict_of_accepted accepted
    rw [Batch.settle_of_none hverdict, Submission.saved, hooked, raises]
    exact Or.inr ⟨rfl, rfl, rfl⟩
  | refreshFailure e accepted hooked raises other =>
    obtain ⟨entry, hverdict⟩ := Batch.verdict_of_accepted accepted
    have hrefreshed : s.refreshed back = s.finish (.error e) := by
      rw [Submission.refreshed, raises, Except.map, Batch.afterRefresh_of_failure other]
      rfl
    rw [Batch.settle_of_none hverdict, Submission.saved, hooked, hrefreshed]
    exact Or.inr ⟨rfl, rfl, rfl⟩

/-- The call with a number is the only one under way, at a stage. -/
structure At (refreshes : Bool) (n : Nat) (stage : Stage) (x : SubmissionExchange) : Prop where
  orderly : x.Orderly Stage.awaits fun _ _ => True
  waiting : x.run.waiting = [(n, stage)]
  state : x.run.state = { refreshes, loading := true }

namespace At

variable {refreshes : Bool} {n : Nat} {stage : Stage} {x : SubmissionExchange}

/-- Whatever other calls are made and told, the one under way is left alone. -/
theorem step_other (h : At refreshes n stage x) {e : Event Call} (he : e.answerTo? n = none) :
    At refreshes n stage (x.step controller e) ∧
      (x.step controller e).deedsOf n = x.deedsOf n := by
  have hmem : (n, stage) ∈ x.run.waiting := h.waiting ▸ List.mem_singleton_self _
  cases e with
  | call call =>
    have hloading : x.run.state.loading = true := by rw [h.state]
    have hne : x.run.begun ≠ n := Nat.ne_of_gt (h.orderly.waiting_lt _ hmem)
    have hturned := step_call_of_loading h.orderly hloading call
    refine ⟨⟨h.orderly.step controller_keeps _, ?_, ?_⟩, ?_⟩
    · rw [hturned]
      exact h.waiting
    · rw [hturned]
      exact h.state
    · rw [Exchange.step_call, Exchange.deedsOf_begins, if_neg hne, List.append_nil]
  | answer m a =>
    rcases h.orderly.answer_cases controller m a with hsame | ⟨q, stage', -, -, hw, -, -⟩
    · rw [hsame]
      exact ⟨h, rfl⟩
    · rw [h.waiting, List.mem_singleton, Prod.mk.injEq] at hw
      simp [Event.answerTo?, hw.1] at he

/-- Events without an answer to the call under way leave it alone. -/
theorem play_others (h : At refreshes n stage x) {events : List (Event Call)}
    (he : ∀ e ∈ events, e.answerTo? n = none) :
    At refreshes n stage (x.play controller events) ∧
      (x.play controller events).deedsOf n = x.deedsOf n := by
  refine Exchange.play_induction (P := fun y => At refreshes n stage y ∧
    y.deedsOf n = x.deedsOf n) events ⟨h, rfl⟩ fun y e hmem hy => ?_
  obtain ⟨hat, hdeeds⟩ := hy.1.step_other (he e hmem)
  exact ⟨hat, hdeeds.trans hy.2⟩

/-- An answer to an open question of the call under way gives it its next turn. -/
theorem step_own (h : At refreshes n stage x) {q : Question} {a : Answer}
    (hq : q ∈ stage.awaits n) (hans : q.isAnsweredBy n a = true) :
    x.step controller (.answer n a) =
      x.continues n a (resume { refreshes, loading := true } stage a) := by
  have hmem : (n, stage) ∈ x.run.waiting := h.waiting ▸ List.mem_singleton_self _
  have hpending : q ∈ x.pending := by
    rw [← h.orderly.pendingOf _ hmem] at hq
    exact (List.mem_filter.mp hq).1
  rw [Exchange.step_answer hpending hans (h.orderly.lookup hmem), h.state]
  rfl

/-- A turn that waits leaves its call under way at the next stage. -/
theorem waits (h : At refreshes n stage x) {q : Question} {a : Answer}
    (hq : q ∈ stage.awaits n) (hans : q.isAnsweredBy n a = true) {asks : List Ask} {next : Stage}
    (hnext : (resume { refreshes, loading := true } stage a).next = .waits asks next)
    (hstate : (resume { refreshes, loading := true } stage a).state =
      { refreshes, loading := true }) : At refreshes n next (x.step controller (.answer n a)) := by
  refine ⟨h.orderly.step controller_keeps _, ?_, ?_⟩
  · rw [h.step_own hq hans]
    simp only [Exchange.continues, h.waiting, Turn.waitsAs, hnext, bne_self_eq_false,
      Bool.false_eq_true, not_false_eq_true, List.filter_cons_of_neg, List.filter_nil,
      List.nil_append]
  · rw [h.step_own hq hans]
    exact hstate

/-- A turn that ends its call leaves no call under way. -/
theorem ended (h : At refreshes n stage x) {q : Question} {a : Answer}
    (hq : q ∈ stage.awaits n) (hans : q.isAnsweredBy n a = true) {r : Except Failure Outcome}
    (hnext : (resume { refreshes, loading := true } stage a).next = .ends r) :
    (x.step controller (.answer n a)).HasEnded n := by
  have hmem : (n, stage) ∈ x.run.waiting := h.waiting ▸ List.mem_singleton_self _
  rw [h.step_own hq hans]
  refine ⟨h.orderly.waiting_lt _ hmem, ?_⟩
  simp [Exchange.continues, h.waiting, Turn.waitsAs, hnext]

/-- What the call under way does with an answer to it. -/
theorem deeds (h : At refreshes n stage x) {q : Question} {a : Answer}
    (hq : q ∈ stage.awaits n) (hans : q.isAnsweredBy n a = true) :
    (x.step controller (.answer n a)).deedsOf n =
      x.deedsOf n ++ (resume { refreshes, loading := true } stage a).deeds := by
  rw [h.step_own hq hans, Exchange.deedsOf_continues, if_pos rfl]

/-- Events up to the next answer to the call under way, and those after it. -/
theorem exists_next (h : At refreshes n stage x) {events : List (Event Call)} {a : Answer}
    {rest : List Answer} (hevents : events.filterMap (Event.answerTo? n) = a :: rest) :
    ∃ y later, At refreshes n stage y ∧ y.deedsOf n = x.deedsOf n ∧
      x.play controller events = (y.step controller (.answer n a)).play controller later ∧
      later.filterMap (Event.answerTo? n) = rest := by
  obtain ⟨before, e, later, rfl, hbefore, he, hlater⟩ := List.filterMap_eq_cons_iff.mp hevents
  obtain ⟨hat, hdeeds⟩ := h.play_others hbefore
  refine ⟨_, later, hat, hdeeds, ?_, hlater⟩
  cases e with
  | call call => cases he
  | answer m b =>
    have hsame : m = n ∧ b = a := by simpa [Event.answerTo?] using he
    rw [hsame.1, hsame.2, Exchange.play_append]
    rfl

/-- Replies in any order to all open places of the batch bring the call to its settlement, without
anything that is seen from outside. -/
theorem collect {replies : Nat → Reply} {order : List Nat} {b : Batch} {rest : List Answer}
    {events : List (Event Call)} (h : At refreshes n (.collecting b) x)
    (hlen : b.replies.length = b.items.length) (hne : order ≠ []) (hnodup : order.Nodup)
    (hopen : ∀ place, b.isOpen place = true ↔ place ∈ order)
    (hevents : events.filterMap (Event.answerTo? n) =
      order.map (fun place => .reply place (replies place)) ++ rest) :
    ∃ y later, At refreshes n (.settling (b.putAll replies order)) y ∧
      y.deedsOf n = x.deedsOf n ∧ x.play controller events = y.play controller later ∧
      later.filterMap (Event.answerTo? n) = rest := by
  induction order generalizing b x events with
  | nil => exact absurd rfl hne
  | cons place tail ih =>
    obtain ⟨hfresh, hnodup'⟩ := List.nodup_cons.mp hnodup
    obtain ⟨y, later, hy, hdeeds, hplay, hlater⟩ := h.exists_next hevents
    obtain ⟨q, hq, hans⟩ := Batch.exists_open_question n hlen
      ((hopen place).mpr (List.mem_cons_self ..)) (replies place)
    have hopen' : ∀ p, (b.put place (replies place)).isOpen p = true ↔ p ∈ tail := by
      intro p
      rw [Batch.isOpen_put, Bool.and_eq_true, hopen, List.mem_cons, bne_iff_ne]
      constructor
      · rintro ⟨hp, hpne⟩
        exact hp.resolve_left hpne
      · intro hp
        exact ⟨Or.inr hp, fun heq => hfresh (heq ▸ hp)⟩
    have hown := hy.deeds hq hans
    by_cases htail : tail = []
    · -- This was the last reply: the call waits for its turn.
      subst htail
      have hcomplete : (b.put place (replies place)).isComplete = true :=
        Batch.isComplete_iff.mpr fun p => Bool.eq_false_iff.mpr fun hp =>
          List.not_mem_nil ((hopen' p).mp hp)
      have hturn : resume { refreshes, loading := true } (.collecting b)
          (.reply place (replies place)) =
            .waitFor { refreshes, loading := true } .pause
              (.settling (b.put place (replies place))) :=
        Batch.collect_of_complete hcomplete
      refine ⟨_, later, hy.waits hq hans (congrArg Turn.next hturn) (congrArg Turn.state hturn), ?_,
        hplay, hlater⟩
      rw [hown, hdeeds, hturn]
      exact List.append_nil _
    · obtain ⟨p, hp⟩ := List.exists_mem_of_ne_nil tail htail
      have hincomplete : (b.put place (replies place)).isComplete = false :=
        Bool.eq_false_iff.mpr fun hc =>
          Bool.false_ne_true ((Batch.isComplete_iff.mp hc p).symm.trans ((hopen' p).mpr hp))
      have hturn : resume { refreshes, loading := true } (.collecting b)
          (.reply place (replies place)) =
            { state := { refreshes, loading := true },
              next := .waits [] (.collecting (b.put place (replies place))) } :=
        Batch.collect_of_incomplete hincomplete
      obtain ⟨z, later', hz, hzdeeds, hzplay, hzlater⟩ :=
        ih (hy.waits hq hans (congrArg Turn.next hturn) (congrArg Turn.state hturn))
          (by rw [Batch.length_replies_put, Batch.put_items, hlen]) htail hnodup' hopen' hlater
      refine ⟨z, later', hz, ?_, hplay.trans hzplay, hzlater⟩
      rw [hzdeeds, hown, hdeeds, hturn]
      exact List.append_nil _

/-- A complete batch does what its results make it do, and then the call has ended. -/
theorem settle {b : Batch} {back : Except Failure Value} {deeds : List (Deed Outcome)}
    {events : List (Event Call)} (h : At refreshes n (.settling b) x)
    (hsettles : Settles (b.results.map Prod.snd) refreshes back deeds)
    (hevents : events.filterMap (Event.answerTo? n) = [.resumed, .ended back]) :
    (x.play controller events).deedsOf n = x.deedsOf n ++ deeds := by
  obtain ⟨y, later, hy, hydeeds, hplay, hlater⟩ := h.exists_next hevents
  have hpause : (⟨n, 0, .pause⟩ : Question) ∈ (Stage.settling b).awaits n :=
    List.mem_singleton_self _
  have hresumed : (⟨n, 0, .pause⟩ : Question).isAnsweredBy n .resumed = true := by
    simp [Question.isAnsweredBy, Answer.fits]
  have hturn : resume { refreshes, loading := true } (.settling b) .resumed =
      b.settle (Submission.finish { refreshes, loading := true })
        (Submission.saved { refreshes, loading := true }) := rfl
  have hsettled := hy.deeds hpause hresumed
  rw [hturn] at hsettled
  rcases settle_deeds (s := { refreshes, loading := true }) hsettles with
    ⟨⟨r, hnext⟩, hdeeds⟩ | ⟨hnext, hstate, hdeeds⟩
  · have hended := hy.ended hpause hresumed hnext
    have hord := hy.orderly.step controller_keeps (.answer n .resumed)
    rw [hplay, hord.deedsOf_play controller_keeps hended, hsettled, hydeeds, hdeeds]
  · -- The batch is saved, and the call goes on until the refresh hook has ended.
    have hrefreshing := hy.waits hpause hresumed hnext hstate
    obtain ⟨z, last, hz, hzdeeds, hzplay, -⟩ := hrefreshing.exists_next hlater
    have hhook : (⟨n, 0, .hook .refresh []⟩ : Question) ∈ Stage.refreshing.awaits n :=
      List.mem_singleton_self _
    have hback : (⟨n, 0, .hook .refresh []⟩ : Question).isAnsweredBy n (.ended back) = true := by
      simp [Question.isAnsweredBy, Answer.fits]
    have hlast : resume { refreshes, loading := true } .refreshing (.ended back) =
        Submission.refreshed { refreshes, loading := true } back := rfl
    have hended := hz.ended hhook hback (r := _) rfl
    have hord := hz.orderly.step controller_keeps (.answer n (.ended back))
    rw [hplay, hzplay, hord.deedsOf_play controller_keeps hended, hz.deeds hhook hback, hlast,
      hzdeeds, hsettled, hydeeds, List.append_assoc, hdeeds]

end At

/-- A submission that is let in is the only one under way, and has sent the queries of its batch. -/
theorem at_of_sends {refreshes : Bool} {before : List (Event Call)} (call : Call)
    {items : List OptionItem} (hfree : (played refreshes before).run.state.loading = false)
    (hne : call.keys ≠ []) (hitems : Batch.itemsOf call.current call.keys = .ok items) :
    let n := (played refreshes before).run.begun
    let y := (played refreshes before).step controller (.call call)
    At refreshes n (.collecting (Batch.ofItems items)) y ∧
      y.deedsOf n = items.map fun item => .sends (.storeOption item) := by
  intro n y
  have hord := Exchange.orderly_play controller_keeps ({ refreshes } : Submission) before
  have hcount := Exchange.countP_guarded controller_keeps controller_guards
    (s := { refreshes }) rfl before
  have hnone : (played refreshes before).run.waiting = [] := by
    rw [List.countP_true, hfree] at hcount
    exact List.length_eq_zero_iff.mp hcount
  have hstate : (played refreshes before).run.state = { refreshes, loading := false } := by
    have hhooked := (refreshed_played refreshes before).hooked
    cases hs : (played refreshes before).run.state with
    | mk hook loading =>
      rw [hs] at hfree hhooked
      rw [show hook = refreshes from hhooked, show loading = false from hfree]
  have hturn : controller.begin (played refreshes before).run.state call =
      { state := { refreshes, loading := true },
        next := .waits (Batch.ofItems items).asks (.collecting (Batch.ofItems items)) } := by
    have hempty : call.keys.isEmpty = false := by simpa using hne
    simp only [controller, Submission.begin, Batch.accept, hstate, hempty, hitems,
      Bool.false_eq_true, ite_false]
  have hstep : y = (played refreshes before).begins call
      { state := { refreshes, loading := true },
        next := .waits (Batch.ofItems items).asks (.collecting (Batch.ofItems items)) } := by
    rw [← hturn]
    exact Exchange.step_call call
  refine ⟨⟨hord.step controller_keeps _, ?_, ?_⟩, ?_⟩
  · rw [hstep]
    simp only [Exchange.begins, hnone, List.filter_nil, List.nil_append]
    rfl
  · rw [hstep]
    rfl
  · rw [hstep, Exchange.deedsOf_begins, if_pos rfl,
      Exchange.deedsOf_begun controller_keeps ({ refreshes } : Submission) before]
    simp only [Turn.deeds, Turn.asks, Turn.ending, Batch.asks, Batch.ofItems, List.filterMap_nil,
      List.nil_append, List.append_nil, List.filterMap_map]
    exact congrFun List.filterMap_eq_map items

/-- The value of an option can be sent as it is stored. -/
theorem unsendable?_storeOption {key : String} {v : Value} (h : v.unsendable? = none) :
    (Query.storeOption ⟨key, sentValue v⟩).payload.unsendable? = none := by
  have hsent : (sentValue v).unsendable? = none := by
    unfold sentValue
    split
    · rfl
    · exact h
  simp [Query.storeOption, OptionItem.toFields, Value.unsendable?, unsendableField?, hsent]

/-- A submission that is let in sends one query for each key, in the order of the keys, each of
which can be sent; once all replies have come, in whatever order and whatever else is submitted
meanwhile, it does just what the results in the order of the keys make it do. -/
theorem settled_by_results_in_order (refreshes : Bool) (before events : List (Event Call))
    (keys : List String) (current : Fields) (order : List Nat) (replies : Nat → Reply)
    (back : Except Failure Value) (hfree : (played refreshes before).run.state.loading = false)
    (hkeys : keys ≠ [])
    (hcurrent : ∀ key ∈ keys, ∃ v, current.get? key = some v ∧ v.unsendable? = none)
    (horder : order.Perm (List.range keys.length))
    (hevents : events.filterMap (Event.answerTo? (played refreshes before).run.begun) =
      order.map (fun place => .reply place (replies place)) ++ [.resumed, .ended back]) :
    let n := (played refreshes before).run.begun
    let items : List OptionItem :=
      keys.map fun key => ⟨key, sentValue (Value.fieldOf current key)⟩
    let x := played refreshes (before ++ .call ⟨keys.map .text, current⟩ :: events)
    (∀ item ∈ items, (Query.storeOption item).payload.unsendable? = none) ∧
    (∃ deeds, Settles (Batch.resultsAt items replies) refreshes back deeds) ∧
    ∀ deeds, Settles (Batch.resultsAt items replies) refreshes back deeds →
      x.deedsOf n = items.map (fun item => .sends (.storeOption item)) ++ deeds := by
  intro n items x
  have hsendable : ∀ item ∈ items, (Query.storeOption item).payload.unsendable? = none := by
    intro item hitem
    obtain ⟨key, hkey, rfl⟩ := List.mem_map.mp hitem
    obtain ⟨v, hv, hsend⟩ := hcurrent key hkey
    have hfield : Value.fieldOf current key = v := by rw [Value.fieldOf, hv, Option.getD_some]
    rw [hfield]
    exact unsendable?_storeOption hsend
  have hlength : items.length = keys.length := List.length_map ..
  have hne : Batch.resultsAt items replies ≠ [] := by
    refine List.ne_nil_of_length_pos ?_
    rw [Batch.resultsAt, List.length_map, List.length_zipIdx, hlength]
    exact List.length_pos_iff.mpr hkeys
  refine ⟨hsendable, Settles.exists hne refreshes back, fun deeds hsettles => ?_⟩
  have hfound : Batch.itemsOf current (keys.map .text) = .ok items :=
    Batch.itemsOf_text fun key hkey => by
      obtain ⟨v, hv, -⟩ := hcurrent key hkey
      rw [hv, Option.isSome_some]
  obtain ⟨hat, hsent⟩ := at_of_sends ⟨keys.map .text, current⟩ hfree
    (fun hnil => hkeys (List.map_eq_nil_iff.mp hnil)) hfound
  rw [← hlength] at horder
  have hplay : x = ((played refreshes before).step controller
      (.call ⟨keys.map .text, current⟩)).play controller events := Exchange.play_append ..
  have hsome : order ≠ [] := by
    intro hnil
    have hzero := horder.length_eq
    rw [hnil, List.length_nil, List.length_range, hlength] at hzero
    exact hkeys (List.length_eq_zero_iff.mp hzero.symm)
  obtain ⟨y, later, hy, hydeeds, hyplay, hlater⟩ := hat.collect
    (by rw [Batch.ofItems, List.length_map]) hsome (horder.nodup_iff.mpr List.nodup_range)
    (fun place => by rw [Batch.isOpen_ofItems, horder.mem_iff, List.mem_range, decide_eq_true_iff])
    hevents
  rw [← Batch.results_putAll items replies horder] at hsettles
  rw [hplay, hyplay, hy.settle hsettles hlater, hydeeds, hsent]

/-- Of two failures the one of the first key decides, though the other reply came before it and
another submission was turned away meanwhile. -/
theorem settled_by_first_of_two :
    let keys := ["a", "b"]
    let current : Fields := [("a", .bool true), ("b", .int 1)]
    let replies : Nat → Reply := fun place =>
      if place = 0 then .broken "reset" else .lost .noOperation
    let events : List (Event Call) :=
      [.answer 0 (.reply 1 (replies 1)), .call ⟨[], []⟩, .answer 0 (.reply 0 (replies 0)),
        .answer 0 .resumed, .answer 0 (.ended (.ok .null))]
    (played true ([] ++ .call ⟨keys.map .text, current⟩ :: events)).deedsOf 0 =
      [.sends (.storeOption ⟨"a", .text "true"⟩), .sends (.storeOption ⟨"b", .int 1⟩),
        .has (.error "Save failed, please retry"), .gives (.ok .error)] := by
  intro keys current replies events
  have hcurrent : ∀ key ∈ keys, ∃ v, current.get? key = some v ∧ v.unsendable? = none := by
    intro key hkey
    simp only [keys, List.mem_cons, List.not_mem_nil, or_false] at hkey
    rcases hkey with rfl | rfl
    · exact ⟨.bool true, rfl, rfl⟩
    · exact ⟨.int 1, rfl, rfl⟩
  have hsettled := settled_by_results_in_order true [] events keys current [1, 0] replies
    (.ok .null) rfl (by simp [keys]) hcurrent (by decide) rfl
  exact hsettled.2.2 _ (.fault [] [.error .noOperation]
    (.told .transport "Request failed: reset" none none) rfl (List.forall_mem_nil _))

end VoucherDesk.Submission
