import VoucherDesk.Proofs.Dialogue.Record
import VoucherDesk.Proofs.Form.Loads

/-!
# The loading flag of a form

A load and a submission raise the same flag when they send their request and take it down when
they have their reply. The flag follows the last request that was sent or answered. While it is
up a request is outstanding, or the form has not sent any. While it is down none is outstanding
just as long as every reply comes when no other request is open: a reply that comes while
another request is open takes the flag down too early.
-/

namespace VoucherDesk.Form

open Dialogue

/-- Whether a request to the server is asked for. -/
def isRequest : Ask → Bool
  | .query _ => true
  | _ => false

/-- The requests that are not answered yet. -/
def outstanding (x : FormExchange) : List Question := x.pending.filter (isRequest ·.ask)

/-- Whether an event answers a request. -/
def answersRequest (x : FormExchange) : Event Call → Bool
  | .call _ => false
  | .answer n a => (outstanding x).any (·.isAnsweredBy n a)

/-- What an event does to the requests: one is sent, one is only answered, or neither. -/
def signals (x : FormExchange) (e : Event Call) : List Bool :=
  if (x.asksAt controller e).any (isRequest ·.ask) then [true]
  else if answersRequest x e then [false] else []

/-- Whether no request is outstanding when the loading flag is down. -/
def Tells (x : FormExchange) : Prop := x.run.state.loading = false → outstanding x = []

/-- The first turn of a call raises the flag just when it sends a request. -/
theorem begin_loading (f : Form) (call : Call) :
    (f.begin call).state.loading = (f.loading || (f.begin call).asks.any isRequest) := by
  cases begin_begins f call with
  | fetches id other next state => simp [Turn.asks, next, state, isRequest]
  | sends v q submits free built query next state => simp [Turn.asks, next, state, isRequest]
  | ends r next edits =>
    have hasks : (f.begin call).asks = [] := by simp only [Turn.asks, next]
    rw [hasks, List.any_nil, Bool.or_false]
    cases edits with
    | nothing state => rw [state]
    | reset other state => rw [state]; rfl
    | field name value sets state => rw [state]
    | key value sets state => rw [state]; rfl

/-- A submission that goes on leaves the flag alone. -/
theorem GoesOn.loading {f : Form} {t : FormTurn} (h : GoesOn f t) :
    t.state.loading = f.loading := by
  cases h with
  | asks hook args stage next ask submission state => rw [state]
  | ends r next submitting same => exact same.loading

/-- A later turn takes the flag down just when a request has been answered. -/
theorem resume_loading (f : Form) {stage : Stage} {a : Answer}
    (hfits : a.fits 0 stage.ask = true) :
    (f.resume stage a).state.loading = (f.loading && !isRequest stage.ask) := by
  have hhook (hask : isRequest stage.ask = false) :
      (f.resume stage a).state.loading = (f.loading && !isRequest stage.ask) := by
    rw [hask, Bool.not_false, Bool.and_true]
    cases resume_resumes f stage a with
    | loaded id fetching ends state => simp [fetching, Stage.ask, isRequest] at hask
    | replied v q saving goesOn => simp [saving, Stage.ask, isRequest] at hask
    | hooked submission goesOn => exact goesOn.loading
    | ignored unfit next state => rw [state]
  cases stage with
  | fetching id =>
    cases a with
    | reply place r =>
      rw [Stage.ask, isRequest, Bool.not_true, Bool.and_false]
      rcases (fetched_ends f id r).2 with state | ⟨v, state⟩
      · exact congrArg Form.loading state
      · exact congrArg Form.loading state
    | _ => cases hfits
  | saving v q =>
    cases a with
    | reply place r =>
      rw [Stage.ask, isRequest, Bool.not_true, Bool.and_false]
      rcases saved_goesOn f v q r with goesOn | goesOn
      · exact goesOn.loading
      · exact goesOn.loading
    | _ => cases hfits
  | refreshing s => exact hhook rfl
  | closing s => exact hhook rfl
  | confirming name codes => exact hhook rfl

/-- A later turn sends no request. -/
theorem any_isRequest_asks_resume (f : Form) (stage : Stage) (a : Answer) :
    (f.resume stage a).asks.any isRequest = false := by
  refine List.any_eq_false.mpr fun ask hask hrequest => ?_
  cases ask with
  | query q => exact query_notMem_asks_resume f stage a q hask
  | _ => cases hrequest

/-- The questions of a turn have a request among them just when it asks one. -/
theorem any_isRequest_questions (n : Nat) (asks : List Ask) :
    (questions n asks).any (isRequest ·.ask) = asks.any isRequest := by
  rw [Bool.eq_iff_iff, List.any_eq_true, List.any_eq_true]
  constructor
  · rintro ⟨q, hq, hrequest⟩
    exact ⟨q.ask, List.mem_of_getElem? (mem_questions.mp hq).2, hrequest⟩
  · rintro ⟨ask, hask, hrequest⟩
    obtain ⟨place, hplace⟩ := List.getElem?_of_mem hask
    exact ⟨⟨n, place, ask⟩, mem_questions.mpr ⟨rfl, hplace⟩, hrequest⟩

/-- A turn that sends no request brings none among the open questions. -/
theorem filter_append_questions (asked : List Question) (n : Nat) {asks : List Ask}
    (hasks : asks.any isRequest = false) :
    (asked ++ questions n asks).filter (isRequest ·.ask) = asked.filter (isRequest ·.ask) := by
  rw [← any_isRequest_questions n, List.any_eq_false] at hasks
  rw [List.filter_append, List.filter_eq_nil_iff.mpr hasks, List.append_nil]

/-- What one event does to the flag and to the requests that are outstanding. -/
inductive Affects (x : FormExchange) (e : Event Call) (y : FormExchange) : Prop where
  /-- A request is sent. -/
  | sends (signals : signals x e = [true]) (unanswered : answersRequest x e = false)
      (loading : y.run.state.loading = true) (outstanding : outstanding y ≠ [])
  /-- A request is answered. -/
  | answers (signals : signals x e = [false]) (answered : answersRequest x e = true)
      (loading : y.run.state.loading = false)
  /-- Neither. -/
  | neither (signals : signals x e = []) (unanswered : answersRequest x e = false)
      (loading : y.run.state.loading = x.run.state.loading)
      (outstanding : outstanding y = outstanding x)

variable {x : FormExchange}

/-- A new call sends a request or does nothing to the requests. -/
theorem call_affects (call : Call) : Affects x (.call call) (x.step controller (.call call)) := by
  have hasks : (x.asksAt controller (.call call)).any (isRequest ·.ask) =
      (x.run.state.begin call).asks.any isRequest := by
    rw [Exchange.asksAt_call, any_isRequest_questions]
    rfl
  rw [Exchange.step_call]
  cases hrequest : (x.run.state.begin call).asks.any isRequest with
  | true =>
    refine .sends ?_ rfl ?_ ?_
    · rw [signals, hasks, hrequest, if_pos rfl]
    · show (x.run.state.begin call).state.loading = true
      rw [begin_loading, hrequest, Bool.or_true]
    · rw [← any_isRequest_questions x.run.begun, List.any_eq_true] at hrequest
      obtain ⟨q, hq, hrequest⟩ := hrequest
      exact List.ne_nil_of_mem (List.mem_filter.mpr ⟨List.mem_append_right _ hq, hrequest⟩)
  | false =>
    refine .neither ?_ rfl ?_ (filter_append_questions _ _ hrequest)
    · rw [signals, hasks, hrequest]
      rfl
    · show (x.run.state.begin call).state.loading = x.run.state.loading
      rw [begin_loading, hrequest, Bool.or_false]

/-- An answer sends no request. -/
theorem signals_answer (h : x.Orderly Stage.awaits Call.suits) (n : Nat) (a : Answer) :
    signals x (.answer n a) = if answersRequest x (.answer n a) then [false] else [] := by
  have hasks : (x.asksAt controller (.answer n a)).any (isRequest ·.ask) = false := by
    rcases h.asksAt_answer controller n a with hnone | ⟨stage, -, hasks⟩
    · rw [hnone, List.any_nil]
    · rw [hasks, any_isRequest_questions]
      exact any_isRequest_asks_resume x.run.state stage a
  simp only [signals, hasks, Bool.false_eq_true, ite_false]

/-- The only open question of a call that waits for no request is no request, so an answer to the
call answers none. -/
theorem isAnsweredBy_of_isRequest (h : x.Orderly Stage.awaits Call.suits) {n : Nat} {stage : Stage}
    (hw : (n, stage) ∈ x.run.waiting) (hstage : isRequest stage.ask = false) (a : Answer) :
    ∀ p ∈ x.pending, isRequest p.ask = true → p.isAnsweredBy n a = false := by
  intro p hp hrequest
  refine Bool.eq_false_iff.mpr fun hans => ?_
  have haw : p ∈ stage.awaits n := by
    rw [← h.pendingOf _ hw]
    exact List.mem_filter.mpr ⟨hp, by simpa using Question.number_of_isAnsweredBy hans⟩
  rw [ask_of_mem_singleton haw, hstage] at hrequest
  cases hrequest

/-- An answer to a request takes the flag down; any other answer does nothing to the requests. -/
theorem answer_affects (h : x.Orderly Stage.awaits Call.suits) (n : Nat) (a : Answer) :
    Affects x (.answer n a) (x.step controller (.answer n a)) := by
  have hsignals := signals_answer h n a
  by_cases hopen : ∃ q ∈ x.pending, q.isAnsweredBy n a = true
  · obtain ⟨q, hq, hans⟩ := hopen
    obtain rfl : q.number = n := Question.number_of_isAnsweredBy hans
    obtain ⟨stage, hw, haw⟩ := h.exists_stage hq
    have hask : q.ask = stage.ask := ask_of_mem_singleton haw
    have hloading := resume_loading x.run.state (fits_of_singleton ⟨q, haw, hans⟩).1
    rw [Exchange.step_answer hq hans (h.lookup hw)]
    cases hrequest : isRequest stage.ask with
    | true =>
      have hanswered : answersRequest x (.answer q.number a) = true :=
        List.any_eq_true.mpr ⟨q, List.mem_filter.mpr ⟨hq, by rw [hask, hrequest]⟩, hans⟩
      rw [hrequest, Bool.not_true, Bool.and_false] at hloading
      exact .answers (by rw [hsignals, hanswered, if_pos rfl]) hanswered hloading
    | false =>
      have hothers := isAnsweredBy_of_isRequest h hw hrequest a
      have hunanswered : answersRequest x (.answer q.number a) = false := by
        refine List.any_eq_false.mpr fun p hp => ?_
        obtain ⟨hp, hprequest⟩ := List.mem_filter.mp hp
        rw [hothers p hp hprequest]
        exact Bool.false_ne_true
      rw [hrequest, Bool.not_false, Bool.and_true] at hloading
      refine .neither (by rw [hsignals, hunanswered]; rfl) hunanswered hloading ?_
      refine (filter_append_questions _ _ (any_isRequest_asks_resume _ stage a)).trans ?_
      rw [List.filter_filter]
      refine List.filter_congr fun p hp => ?_
      cases hprequest : isRequest p.ask with
      | true => rw [hothers p hp hprequest]; rfl
      | false => rfl
  · have hsame : x.step controller (.answer n a) = x :=
      Exchange.step_unasked fun q hq hans => hopen ⟨q, hq, hans⟩
    have hunanswered : answersRequest x (.answer n a) = false :=
      List.any_eq_false.mpr fun q hq hans => hopen ⟨q, (List.mem_filter.mp hq).1, hans⟩
    rw [hsame]
    exact .neither (by rw [hsignals, hunanswered]; rfl) hunanswered rfl rfl

/-- Every event sends a request, answers one, or does nothing to them. -/
theorem step_affects (h : x.Orderly Stage.awaits Call.suits) (e : Event Call) :
    Affects x e (x.step controller e) := by
  cases e with
  | call call => exact call_affects call
  | answer n a => exact answer_affects h n a

/-- One event makes the flag say what was sent or answered last. -/
theorem step_loading (h : x.Orderly Stage.awaits Call.suits) (e : Event Call) :
    (x.step controller e).run.state.loading = (signals x e).getLast?.getD x.run.state.loading := by
  cases step_affects h e with
  | sends signals unanswered loading outstanding => rw [signals, loading]; rfl
  | answers signals answered loading => rw [signals, loading]; rfl
  | neither signals unanswered loading outstanding => rw [signals, loading]; rfl

/-- A request that was sent and after which nothing was answered is outstanding. -/
theorem play_outstanding (h : x.Orderly Stage.awaits Call.suits) (events : List (Event Call))
    (hlast : (x.gather controller signals events).getLast?.getD (!(outstanding x).isEmpty) =
      true) : outstanding (x.play controller events) ≠ [] := by
  induction events generalizing x with
  | nil => simpa [Exchange.gather, Exchange.play] using hlast
  | cons e rest ih =>
    refine ih (h.step controller_keeps e) ?_
    rw [Exchange.gather, List.getLast?_append, Option.getD_or] at hlast
    cases hrest : (Exchange.gather controller signals (x.step controller e) rest).getLast? with
    | some sent => simpa [hrest] using hlast
    | none =>
      rw [hrest, Option.getD_none] at hlast
      rw [Option.getD_none]
      cases step_affects h e with
      | sends signals unanswered loading outstanding => simpa using outstanding
      | answers signals answered loading => simp [signals] at hlast
      | neither signals unanswered loading outstanding =>
        rw [outstanding]
        simpa [signals] using hlast

section Created

variable (settings : Settings) (editingId : Value) (hooks : List Hook) (directory : String)
  (files : FileTree)

/-- What events do to the requests of a form, from the moment it is created. -/
def signalsOf (events : List (Event Call)) : List Bool :=
  (Exchange.start (create settings editingId hooks directory files)).gather controller signals
    events

/-- Whether no request is outstanding whenever the loading flag is down. -/
def AlwaysTells (events : List (Event Call)) : Prop :=
  ∀ before, before <+: events → Tells (played settings editingId hooks directory files before)

/-- Whether every reply comes when no other request is open. -/
def AnswersApart (events : List (Event Call)) : Prop :=
  ∀ before e after, events = before ++ e :: after →
    answersRequest (played settings editingId hooks directory files before) e = true →
      outstanding (played settings editingId hooks directory files (before ++ [e])) = []

/-- The loading flag of a form follows the last request that was sent or answered; one that edits
is created with the flag up. After a request was sent, the flag is up only while one is
outstanding. It is down only while none is outstanding just in those runs in which every reply
comes when no other request is open. -/
theorem always_tells_iff (events : List (Event Call)) :
    (AlwaysTells settings editingId hooks directory files events ↔
      AnswersApart settings editingId hooks directory files events) ∧
    let x := played settings editingId hooks directory files events
    let sent := signalsOf settings editingId hooks directory files events
    x.run.state.loading = sent.getLast?.getD (!editingId.isNull) ∧
    (sent.getLast? = some true → outstanding x ≠ []) := by
  have hord (before : List (Event Call)) := Exchange.orderly_play controller_keeps
    (create settings editingId hooks directory files) before
  have hnext (before : List (Event Call)) (e : Event Call) :
      played settings editingId hooks directory files (before ++ [e]) =
        (played settings editingId hooks directory files before).step controller e :=
    Exchange.play_append ..
  refine ⟨⟨fun htells before e after hevents hanswers => ?_, fun hapart before hbefore => ?_⟩,
    Exchange.Orderly.play_getLast controller_keeps Form.loading step_loading (hord []) events,
    fun hlast => play_outstanding (hord []) events ?_⟩
  · -- The reply takes the flag down, and by assumption the flag is right then.
    refine htells (before ++ [e]) ⟨after, by simp [hevents]⟩ ?_
    rw [hnext]
    cases step_affects (hord before) e with
    | sends signals unanswered loading outstanding => cases unanswered.symm.trans hanswers
    | answers signals answered loading => exact loading
    | neither signals unanswered loading outstanding => cases unanswered.symm.trans hanswers
  · induction before using List.reverseRecOn with
    | nil => exact fun _ => rfl
    | append_singleton before e ih =>
      obtain ⟨after, hafter⟩ := hbefore
      have htells := ih ⟨e :: after, by simpa using hafter⟩
      intro hdown
      rw [hnext] at hdown
      cases step_affects (hord before) e with
      | sends signals unanswered loading outstanding => cases loading.symm.trans hdown
      | answers signals answered loading =>
        exact hapart before e after (by simpa using hafter.symm) answered
      | neither signals unanswered loading outstanding =>
        rw [hnext, outstanding]
        exact htells (loading.symm.trans hdown)
  · exact congrArg (Option.getD · _) hlast

end Created

/-- A form that edits voucher 5 is submitted and opened, and the load ends first: the flag is down
while the change is outstanding. -/
theorem not_always_tells_overlap :
    ¬ AlwaysTells {} (.int 5) [] "" {}
      [.call .submit, .call .openForm, .answer 1 (.reply 0 (.broken ""))] := by
  intro htells
  have hnone := htells _ (List.prefix_refl _) rfl
  cases hnone

end VoucherDesk.Form
