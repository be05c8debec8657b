import VoucherDesk.Proofs.Dialogue.Twins
import VoucherDesk.Proofs.Form.Refused

/-!
# Edits during a submission

The voucher and the query of a submission are made before it first waits. Edits of the draft that
come later change nothing of what it does. An accepted submission of new vouchers empties the draft
when it has its reply, which takes away the edits until then and none of those after it.
-/

namespace VoucherDesk.Form

open Dialogue

/-- Whether a call only edits the draft. -/
def Call.edits : Call → Bool
  | .reset | .setField .. | .setKey _ => true
  | _ => false

/-- What a form shows to be edited. -/
def draft (f : Form) : Fields × Value := (f.inputs, f.key)

/-- The form after calls in order. -/
def edited (f : Form) (calls : List Call) : Form :=
  calls.foldl (fun g call => (g.begin call).state) f

theorem edited_append (f : Form) (earlier later : List Call) :
    f.edited (earlier ++ later) = (f.edited earlier).edited later := List.foldl_append

/-- A form with another draft. -/
def Redrafted (f g : Form) : Prop := ∃ inputs key, g = { f with inputs, key }

theorem Redrafted.isEdit {f g : Form} (h : Redrafted f g) : g.isEdit = f.isEdit := by
  obtain ⟨inputs, key, rfl⟩ := h
  rfl

theorem Redrafted.hooks {f g : Form} (h : Redrafted f g) : g.hooks = f.hooks := by
  obtain ⟨inputs, key, rfl⟩ := h
  rfl

/-- Edits end at once and change nothing but the draft. -/
theorem begin_of_edits {call : Call} (hedits : call.edits = true) {f g : Form} (h : Redrafted f g) :
    (∃ r, (g.begin call).next = .ends r) ∧ Redrafted f (g.begin call).state := by
  obtain ⟨inputs, key, rfl⟩ := h
  cases call with
  | reset => exact ⟨⟨_, rfl⟩, _, _, rfl⟩
  | setKey value => exact ⟨⟨_, rfl⟩, _, _, rfl⟩
  | setField name value =>
    simp only [Form.begin, Form.setField]
    split
    · next later hset =>
      split at hset
      · cases hset
        exact ⟨⟨_, rfl⟩, _, _, rfl⟩
      · cases hset
    · exact ⟨⟨_, rfl⟩, _, _, rfl⟩
  | _ => cases hedits

/-- What an edit makes of a draft depends on the draft alone. -/
theorem draft_begin {call : Call} (hedits : call.edits = true) {f g : Form}
    (h : g.draft = f.draft) : (g.begin call).state.draft = (f.begin call).state.draft := by
  obtain ⟨hinputs, hkey⟩ := Prod.ext_iff.mp h
  dsimp only [draft] at hinputs hkey
  cases call with
  | reset => rfl
  | setKey value => exact Prod.ext hinputs rfl
  | setField name value =>
    simp only [Form.begin, Form.setField, hinputs]
    cases (f.inputs.get? name).isSome with
    | true => exact Prod.ext rfl hkey
    | false => exact h
  | _ => cases hedits

/-- A turn reads nothing of the draft: forms that differ in the draft take turns that agree but for
the draft that they leave. -/
def Blind (turn : Form → FormTurn) : Prop :=
  ∀ f g, Redrafted f g → Turn.Agree Redrafted (turn f) (turn g)

namespace Blind

variable {turn other : Form → FormTurn}

theorem after (h : Blind turn) (effects : List Effect) : Blind fun f => (turn f).after effects :=
  fun f g hg => ⟨(h f g hg).state, congrArg (effects ++ ·) (h f g hg).effects, (h f g hg).next⟩

theorem waitFor (ask : Ask) (stage : Stage) : Blind fun f => .waitFor f ask stage :=
  fun _ _ hg => ⟨hg, rfl, rfl⟩

theorem finish (r : Except Failure Result) : Blind fun f => .finish f r :=
  fun _ _ hg => ⟨hg, rfl, rfl⟩

/-- A change of the form that is the same whatever the draft is, before a turn. -/
theorem comp (h : Blind turn) (change : Form → Form)
    (hchange : ∀ f g, Redrafted f g → Redrafted (change f) (change g)) :
    Blind fun f => turn (change f) :=
  fun f g hg => h _ _ (hchange f g hg)

theorem ite {p : Form → Bool} (hp : ∀ f g, Redrafted f g → p g = p f) (h : Blind turn)
    (h' : Blind other) : Blind fun f => if p f then turn f else other f := by
  intro f g hg
  dsimp only
  rw [hp f g hg]
  split
  · exact h f g hg
  · exact h' f g hg

theorem endSubmit (r : Except Failure Bool) : Blind fun f => f.endSubmit r :=
  (finish (r.map .accepted)).comp (fun f => { f with submitting := false }) <| by
    rintro f _ ⟨inputs, key, rfl⟩
    exact ⟨inputs, key, rfl⟩

theorem keepCodes (name : String) (codes : List String) :
    Blind fun f => f.keepCodes name codes := by
  rintro f _ ⟨inputs, key, rfl⟩
  have hdirectory : { f with inputs, key }.codeDirectory = f.codeDirectory := rfl
  simp only [Form.keepCodes, hdirectory]
  cases Export.write f.files f.codeDirectory name codes with
  | error e => exact endSubmit (.error e) f _ ⟨inputs, key, rfl⟩
  | ok w => exact ⟨⟨inputs, key, rfl⟩, rfl, rfl⟩

theorem offerCodes (s : Saved) : Blind fun f => f.offerCodes s := by
  refine ite (fun f g hg => by rw [hg.isEdit]) (endSubmit (.ok true)) ?_
  cases s.data.elements? with
  | none => exact endSubmit (.error .noOperation)
  | some items => exact ite (fun f g hg => by rw [hg.hooks]) (waitFor _ _) (endSubmit (.ok true))

theorem callClose (s : Saved) : Blind fun f => f.callClose s :=
  ite (fun f g hg => by rw [hg.hooks]) (waitFor _ _) (offerCodes s)

theorem callRefresh (s : Saved) : Blind fun f => f.callRefresh s :=
  ite (fun f g hg => by rw [hg.hooks]) (waitFor _ _) (callClose s)

theorem afterHook (h : Blind turn) (hook : Hook) (r : Except Failure Value) :
    Blind fun f => f.afterHook hook r (turn f) := by
  cases r with
  | ok value => exact h
  | error e =>
    cases e with
    | fault t => exact h.after _
    | _ => exact endSubmit _

theorem afterConfirm (name : String) (codes : List String) (r : Except Failure Value) :
    Blind fun f => f.afterConfirm name codes r := by
  cases r with
  | error e => exact endSubmit (.error e)
  | ok answer => exact ite (fun _ _ _ => rfl) (keepCodes name codes) (endSubmit (.ok true))

theorem saved (v : Voucher) (q : Query) (r : Reply) : Blind fun f => f.saved v q r := by
  rintro f _ ⟨inputs, key, rfl⟩
  have hloaded : Redrafted { f with loading := false } { f with loading := false, inputs, key } :=
    ⟨inputs, key, rfl⟩
  unfold Form.saved
  cases q.envelopeOf r with
  | error e =>
    cases e with
    | fault t => exact ((endSubmit (.ok false)).after [.error t.message]) _ _ hloaded
    | _ => exact endSubmit (.error _) _ _ hloaded
  | ok envelope =>
    dsimp only
    cases envelope.success with
    | false => exact ((endSubmit (.ok false)).after [.error envelope.message]) _ _ hloaded
    | true =>
      have hrefresh := callRefresh ⟨v, envelope.data⟩
      have hemptied : Blind fun f => f.reset.callRefresh ⟨v, envelope.data⟩ :=
        hrefresh.comp Form.reset fun _ _ ⟨_, _, hg⟩ => hg ▸ ⟨_, _, rfl⟩
      exact ite (fun _ _ => Redrafted.isEdit) (hrefresh.after _) (hemptied.after _) _ _ hloaded

theorem fetched (id : Value) (r : Reply) : Blind fun f => f.fetched id r := by
  rintro f _ ⟨inputs, key, rfl⟩
  have hloaded : Redrafted { f with loading := false } { f with loading := false, inputs, key } :=
    ⟨inputs, key, rfl⟩
  unfold Form.fetched
  cases (Query.showVoucher id).envelopeOf r with
  | error e =>
    cases e with
    | fault t => exact ((finish (.error (.fault t))).after [.error t.message]) _ _ hloaded
    | _ => exact finish (.error _) _ _ hloaded
  | ok envelope =>
    dsimp only
    obtain ⟨result, effects⟩ := voucherIn id envelope
    cases result with
    | ok v => exact ((finish (.ok (.voucher v))).after effects) _ _ ⟨inputsOf v, key, rfl⟩
    | error e =>
      cases e with
      | fault t =>
        exact ((finish (.error (.fault t))).after (effects ++ [.error t.message])) _ _ hloaded
      | _ => exact ((finish (.error _)).after effects) _ _ hloaded

theorem resume (stage : Stage) (a : Answer) : Blind fun f => f.resume stage a := by
  have hsame (stage : Stage) : Blind fun f => { state := f, next := .waits [] stage } :=
    fun _ _ hg => ⟨hg, rfl, rfl⟩
  cases stage with
  | fetching id =>
    cases a with
    | reply place r => exact fetched id r
    | _ => exact hsame _
  | saving v q =>
    cases a with
    | reply place r => exact saved v q r
    | _ => exact hsame _
  | refreshing s =>
    cases a with
    | ended r => exact (callClose s).afterHook .refresh r
    | _ => exact hsame _
  | closing s =>
    cases a with
    | ended r => exact (offerCodes s).afterHook .close r
    | _ => exact hsame _
  | confirming name codes =>
    cases a with
    | ended r => exact afterConfirm name codes r
    | _ => exact hsame _

end Blind

/-- No later turn of a call of a form reads what edits change. -/
theorem controller_overlooks : controller.Overlooks Call.edits Redrafted where
  begin h hedits := begin_of_edits hedits h
  resume stage a h := Blind.resume stage a _ _ h

/-- The calls that begin in events. -/
def callsIn (events : List (Event Call)) : List Call := events.filterMap Event.call?

/-- All that is done between the answers to a call is edits. -/
theorem edits_of_mem_callsIn {events : List (Event Call)} {n : Nat}
    (hevents : ∀ e ∈ events, e.IsBetween Call.edits n) :
    ∀ call ∈ callsIn events, call.edits = true := by
  intro call hcall
  obtain ⟨e, he, hsome⟩ := List.mem_filterMap.mp hcall
  cases e with
  | call c =>
    cases hsome
    exact hevents _ he
  | answer m a => cases hsome

/-- The first call of events is the first of what is done to the form. -/
theorem edited_callsIn_cons (y : FormExchange) (call : Call) (rest : List (Event Call)) :
    y.run.state.edited (callsIn (.call call :: rest)) =
      (y.step controller (.call call)).run.state.edited (callsIn rest) := by
  rw [Exchange.step_call]
  rfl

/-- Edits of one draft come to one draft. -/
theorem draft_edited {calls : List Call} (hedits : ∀ call ∈ calls, call.edits = true) {f g : Form}
    (h : g.draft = f.draft) : (g.edited calls).draft = (f.edited calls).draft := by
  induction calls generalizing f g with
  | nil => exact h
  | cons call rest ih =>
    obtain ⟨hfirst, hrest⟩ := List.forall_mem_cons.mp hedits
    exact ih hrest (draft_begin hfirst h)

/-- A submission that goes on waits for a hook, and leaves the draft as it is. -/
theorem GoesOn.hooks {f : Form} {t : FormTurn} (h : GoesOn f t) :
    t.state.draft = f.draft ∧ ∀ {asks stage}, t.next = .waits asks stage →
      ∃ hook args, stage.ask = .hook hook args := by
  cases h with
  | asks hook args stage next ask submission state =>
    refine ⟨by rw [state], fun hnext => ?_⟩
    cases next.symm.trans hnext
    exact ⟨hook, args, ask⟩
  | ends r next submitting same =>
    refine ⟨Prod.ext same.inputs same.key, fun hnext => ?_⟩
    cases next.symm.trans hnext

/-- Whether a reply grants a query. -/
def Grants (q : Query) (r : Reply) : Prop :=
  ∃ envelope, q.envelopeOf r = .ok envelope ∧ envelope.success = true

/-- A granted reply empties the draft of a form for new vouchers, and no other reply changes any
draft. -/
theorem draft_saved (f : Form) (v : Voucher) (q : Query) (r : Reply) :
    (f.isEdit = false ∧ Grants q r → (f.saved v q r).state.draft = f.reset.draft) ∧
      (¬ (f.isEdit = false ∧ Grants q r) → (f.saved v q r).state.draft = f.draft) := by
  by_cases hgrants : Grants q r
  · obtain ⟨envelope, henvelope, hsuccess⟩ := hgrants
    obtain ⟨entry, hsaved⟩ := saved_of_accepted f (v := v) henvelope hsuccess
    have hdraft : (f.saved v q r).state.draft = f.settled.draft := by
      rw [hsaved]
      exact (GoesOn.callRefresh f.settled ⟨v, envelope.data⟩).hooks.1
    rw [hdraft]
    cases hedit : f.isEdit with
    | true =>
      refine ⟨fun h => absurd h.1 (by decide), fun _ => ?_⟩
      rw [settled, hedit, if_pos rfl]
      rfl
    | false =>
      refine ⟨fun _ => ?_, fun h => absurd ⟨rfl, envelope, henvelope, hsuccess⟩ h⟩
      rw [settled, hedit, if_neg Bool.false_ne_true]
      rfl
  · have hrefused : ∀ envelope, q.envelopeOf r = .ok envelope → envelope.success = false :=
      fun envelope henvelope => Bool.eq_false_iff.mpr fun hsuccess =>
        hgrants ⟨envelope, henvelope, hsuccess⟩
    refine ⟨fun h => absurd h.2 hgrants, fun _ => ?_⟩
    rw [(saved_of_refused f v hrefused).1]
    rfl

/-- A submission has its reply, or has ended before it could have any: wherever it waits it waits
for a hook. -/
structure HasReply (n : Nat) (y : FormExchange) : Prop where
  orderly : y.Orderly Stage.awaits Call.suits
  hooks : ∀ stage, (n, stage) ∈ y.run.waiting → ∃ hook args, stage.ask = .hook hook args

namespace HasReply

variable {n : Nat} {y : FormExchange}

/-- An edit does not take a submission back to its request. -/
theorem step_call (h : HasReply n y) {call : Call} (hedits : call.edits = true) :
    HasReply n (y.step controller (.call call)) := by
  refine ⟨h.orderly.step_call controller_keeps call, fun stage hw => ?_⟩
  obtain ⟨⟨r, hends⟩, -⟩ := begin_of_edits hedits ⟨_, _, rfl⟩
  rw [Exchange.step_call] at hw
  rcases Exchange.mem_waiting_after.mp hw with ⟨hold, -⟩ | ⟨-, asks, hnext⟩
  · exact h.hooks stage hold
  · cases hends.symm.trans hnext

/-- Nor does an answer, and it leaves the draft as it is. -/
theorem step_answer (h : HasReply n y) (a : Answer) :
    HasReply n (y.step controller (.answer n a)) ∧
      (y.step controller (.answer n a)).run.state.draft = y.run.state.draft := by
  have horderly := h.orderly.step_answer controller_keeps n a
  rcases h.orderly.answer_cases controller n a with hsame | ⟨q, stage, -, -, hw, -, hstep⟩
  · rw [hsame]
    exact ⟨h, rfl⟩
  · obtain ⟨hook, args, hask⟩ := h.hooks stage hw
    have hturn : (y.run.state.resume stage a).state.draft = y.run.state.draft ∧
        ∀ {asks stage'}, (y.run.state.resume stage a).next = .waits asks stage' →
          ∃ hook args, stage'.ask = .hook hook args := by
      cases resume_resumes y.run.state stage a with
      | loaded id fetching ends state =>
        rw [fetching] at hask
        cases hask
      | replied v q saving goesOn =>
        rw [saving] at hask
        cases hask
      | hooked submission goesOn => exact goesOn.hooks
      | ignored unfit next state =>
        refine ⟨by rw [state], fun hnext => ?_⟩
        cases next.symm.trans hnext
        exact ⟨hook, args, hask⟩
    rw [hstep] at horderly ⊢
    refine ⟨⟨horderly, fun stage' hw' => ?_⟩, hturn.1⟩
    rcases Exchange.mem_waiting_after.mp hw' with ⟨-, hne⟩ | ⟨-, asks, hnext⟩
    · exact absurd rfl hne
    · exact hturn.2 hnext

/-- Once a submission has its reply nothing but edits changes the draft. -/
theorem play (h : HasReply n y) {events : List (Event Call)}
    (hevents : ∀ e ∈ events, e.IsBetween Call.edits n) :
    (y.play controller events).run.state.draft = (y.run.state.edited (callsIn events)).draft := by
  induction events generalizing y with
  | nil => rfl
  | cons e rest ih =>
    obtain ⟨hfirst, hrest⟩ := List.forall_mem_cons.mp hevents
    cases e with
    | call call =>
      rw [edited_callsIn_cons]
      exact ih (h.step_call hfirst) hrest
    | answer m a =>
      obtain rfl : m = n := hfirst
      obtain ⟨hstep, hdraft⟩ := h.step_answer a
      exact (ih hstep hrest).trans (draft_edited (edits_of_mem_callsIn hrest) hdraft)

end HasReply

/-- A submission waits for the reply to its query; the form is as it was then, but for the draft. -/
structure AwaitsReply (n : Nat) (v : Voucher) (q : Query) (f : Form) (y : FormExchange) : Prop where
  orderly : y.Orderly Stage.awaits Call.suits
  waiting : (n, .saving v q) ∈ y.run.waiting
  state : Redrafted f y.run.state

namespace AwaitsReply

variable {n : Nat} {v : Voucher} {q : Query} {f : Form} {y : FormExchange}

/-- An edit leaves it waiting. -/
theorem step_call (h : AwaitsReply n v q f y) {call : Call} (hedits : call.edits = true) :
    AwaitsReply n v q f (y.step controller (.call call)) := by
  have horderly := h.orderly.step_call controller_keeps call
  obtain ⟨-, hstate⟩ := begin_of_edits hedits h.state
  rw [Exchange.step_call] at horderly ⊢
  have hne : n ≠ y.run.begun := Nat.ne_of_lt (h.orderly.waiting_lt _ h.waiting)
  exact ⟨horderly, Exchange.mem_waiting_after.mpr (Or.inl ⟨h.waiting, hne⟩), hstate⟩

/-- An answer that is no reply changes nothing. -/
theorem step_answer (h : AwaitsReply n v q f y) {a : Answer} (hnone : ∀ r, a ≠ .reply 0 r) :
    y.step controller (.answer n a) = y := by
  rcases h.orderly.answer_cases controller n a with hsame | ⟨p, stage, -, hans, hw, hp, -⟩
  · exact hsame
  · obtain rfl : Stage.saving v q = stage :=
      Option.some.inj ((h.orderly.lookup h.waiting).symm.trans (h.orderly.lookup hw))
    obtain rfl : p = ⟨n, 0, .query q⟩ := List.mem_singleton.mp hp
    cases a with
    | reply place r =>
      have hplace : place = 0 := by simpa [Question.isAnsweredBy, Answer.fits] using hans
      exact absurd (congrArg (Answer.reply · r) hplace) (hnone r)
    | _ => simp [Question.isAnsweredBy, Answer.fits] at hans

/-- Until the reply comes nothing but edits changes the draft. -/
theorem play (h : AwaitsReply n v q f y) {events : List (Event Call)}
    (hevents : ∀ e ∈ events, e.IsBetween Call.edits n)
    (hnone : ∀ r, .answer n (.reply 0 r) ∉ events) :
    AwaitsReply n v q f (y.play controller events) ∧
      (y.play controller events).run.state.draft = (y.run.state.edited (callsIn events)).draft := by
  induction events generalizing y with
  | nil => exact ⟨h, rfl⟩
  | cons e rest ih =>
    obtain ⟨hfirst, hrest⟩ := List.forall_mem_cons.mp hevents
    have hlater : ∀ r, .answer n (.reply 0 r) ∉ rest :=
      fun r hr => hnone r (List.mem_cons_of_mem _ hr)
    cases e with
    | call call =>
      rw [edited_callsIn_cons]
      exact ih (h.step_call hfirst) hrest hlater
    | answer m a =>
      obtain rfl : m = n := hfirst
      have hstep := h.step_answer (a := a) fun r hr => hnone r (hr ▸ List.mem_cons_self ..)
      show AwaitsReply m v q f ((y.step controller (.answer m a)).play controller rest) ∧
        ((y.step controller (.answer m a)).play controller rest).run.state.draft = _
      rw [hstep]
      exact ih h hrest hlater

/-- With the reply the submission goes on, and the draft is emptied if it was for new vouchers and
the reply grants them. -/
theorem step_reply (h : AwaitsReply n v q f y) (r : Reply) :
    HasReply n (y.step controller (.answer n (.reply 0 r))) ∧
      (y.step controller (.answer n (.reply 0 r))).run.state = (y.run.state.saved v q r).state := by
  have hopen : (⟨n, 0, .query q⟩ : Question) ∈ y.pendingOf n := by
    rw [h.orderly.pendingOf _ h.waiting]
    exact List.mem_singleton_self _
  have hans := Question.isAnsweredBy_reply n 0 q r
  have horderly := h.orderly.step_answer controller_keeps n (.reply 0 r)
  rw [Exchange.step_answer (List.mem_filter.mp hopen).1 hans (h.orderly.lookup h.waiting)]
    at horderly ⊢
  refine ⟨⟨horderly, fun stage hw => ?_⟩, rfl⟩
  rcases Exchange.mem_waiting_after.mp hw with ⟨-, hne⟩ | ⟨-, asks, hnext⟩
  · exact absurd rfl hne
  · rcases saved_goesOn y.run.state v q r with hgoes | hgoes
    · exact hgoes.hooks.2 hnext
    · exact hgoes.hooks.2 hnext

/-- A reply that grants new vouchers takes away the edits until then, and none of those after it;
any other reply takes away none. -/
theorem play_reply (h : AwaitsReply n v q f y) (r : Reply) {earlier later : List (Event Call)}
    (hearlier : ∀ e ∈ earlier, e.IsBetween Call.edits n)
    (hlater : ∀ e ∈ later, e.IsBetween Call.edits n)
    (hfirst : ∀ r', .answer n (.reply 0 r') ∉ earlier) :
    let z := y.play controller (earlier ++ .answer n (.reply 0 r) :: later)
    (f.isEdit = false ∧ Grants q r → z.run.state.draft = (f.reset.edited (callsIn later)).draft) ∧
      (¬ (f.isEdit = false ∧ Grants q r) →
        z.run.state.draft = (y.run.state.edited (callsIn (earlier ++ later))).draft) := by
  intro z
  obtain ⟨hawaits, hdraft⟩ := h.play hearlier hfirst
  obtain ⟨hreply, hstate⟩ := hawaits.step_reply r
  have hedits := edits_of_mem_callsIn hlater
  have hplay : z.run.state.draft =
      (((y.play controller earlier).run.state.saved v q r).state.edited (callsIn later)).draft := by
    rw [← hstate, ← hreply.play hlater, show z = _ from Exchange.play_append earlier _]
    rfl
  obtain ⟨hemptied, hkept⟩ := draft_saved (y.play controller earlier).run.state v q r
  rw [hawaits.state.isEdit] at hemptied hkept
  rw [hplay]
  constructor
  · exact fun hgrants => draft_edited hedits (hemptied hgrants)
  · intro hnot
    have hcalls : callsIn (earlier ++ later) = callsIn earlier ++ callsIn later :=
      List.filterMap_append ..
    rw [hcalls, edited_append]
    exact draft_edited hedits ((hkept hnot).trans hdraft)

end AwaitsReply

/-- Whether a submission of a form empties its draft when it has a reply: it is let in, sends new
vouchers, and the reply grants them. -/
def IsEmptiedBy (f : Form) (r : Reply) : Prop :=
  f.submitting = false ∧ f.isEdit = false ∧ ∃ q, f.prepared = .ok q ∧ Grants q r

/-- A submission sends a query and waits for its reply, or ends at once; the draft stays as it is,
and only a submission that waits can empty it. -/
theorem submit_awaits {x : FormExchange} (h : x.Orderly Stage.awaits Call.suits) :
    let y := x.step controller (.call .submit)
    y.run.state.draft = x.run.state.draft ∧
      ((∃ v q, AwaitsReply x.run.begun v q y.run.state y ∧ x.run.state.submitting = false ∧
        x.run.state.prepared = .ok q ∧ y.run.state.isEdit = x.run.state.isEdit) ∨
      HasReply x.run.begun y ∧ ∀ r, ¬ x.run.state.IsEmptiedBy r) := by
  intro y
  have horderly : y.Orderly Stage.awaits Call.suits := h.step_call controller_keeps .submit
  have hstate : y.run.state = x.run.state.submit.state := by
    rw [show y = _ from Exchange.step_call _]
    rfl
  have hwaiting (stage : Stage) : (x.run.begun, stage) ∈ y.run.waiting ↔
      ∃ asks, x.run.state.submit.next = .waits asks stage := by
    rw [show y = _ from Exchange.step_call _]
    refine Exchange.mem_waiting_after.trans ⟨?_, fun hnext => Or.inr ⟨rfl, hnext⟩⟩
    rintro (⟨-, hne⟩ | ⟨-, hnext⟩)
    · exact absurd rfl hne
    · exact hnext
  rw [hstate]
  cases submit_begins x.run.state with
  | fetches id other next state => cases other
  | sends v q submits free built query next state =>
    have hwaits := (hwaiting _).mpr ⟨_, next⟩
    refine ⟨by rw [state]; rfl, Or.inl ⟨v, q, ⟨horderly, hwaits, ?_⟩, free, ?_, ?_⟩⟩
    · rw [hstate]
      exact ⟨_, _, rfl⟩
    · exact bind_eq_ok.mpr ⟨v, built, query⟩
    · rw [state]
      rfl
  | ends r next edits =>
    refine ⟨?_, Or.inr ⟨⟨horderly, fun stage hw => ?_⟩, ?_⟩⟩
    · cases edits with
      | nothing state => rw [state]
      | reset other state => cases other
      | field name value sets state => cases sets
      | key value sets state => cases sets
    · obtain ⟨asks, hnext⟩ := (hwaiting stage).mp hw
      cases next.symm.trans hnext
    · rintro reply ⟨hfree, -, q, hquery, -⟩
      obtain ⟨v, hbuild, hsaves⟩ := bind_eq_ok.mp hquery
      rw [submit_of_saveQuery hfree hbuild hsaves] at next
      cases next

/-- Edits that come between the answers to a submission change nothing of what it does: it sends the
same query, tells the same, calls the hooks with the same arguments, keeps the same codes and gives
the same result as without them. A submission of new vouchers that is accepted takes away the edits
until its reply and none of those after it; any other submission takes away none. -/
theorem edits_do_not_leak (s : Form) (before events : List (Event Call)) (x : FormExchange)
    (hx : x = (Exchange.start s).play controller before)
    (hevents : ∀ e ∈ events, e.IsBetween Call.edits x.run.begun) :
    let f := x.run.state
    let answers := events.filter fun e => (e.answerTo? x.run.begun).isSome
    let alone := (x.step controller (.call .submit)).play controller answers
    let y := (x.step controller (.call .submit)).play controller events
    (y.deedsOf x.run.begun = alone.deedsOf x.run.begun ∧
      y.run.state.files = alone.run.state.files ∧
      y.run.state.exportPath = alone.run.state.exportPath) ∧
    ((∀ r, .answer x.run.begun (.reply 0 r) ∉ events) →
      y.run.state.draft = (f.edited (callsIn events)).draft) ∧
    ∀ earlier later r, events = earlier ++ .answer x.run.begun (.reply 0 r) :: later →
      (∀ r', .answer x.run.begun (.reply 0 r') ∉ earlier) →
      (f.IsEmptiedBy r → y.run.state.draft = (f.reset.edited (callsIn later)).draft) ∧
      (¬ f.IsEmptiedBy r →
        y.run.state.draft = (f.edited (callsIn (earlier ++ later))).draft) := by
  intro f answers alone y
  have hord : x.Orderly Stage.awaits Call.suits := hx ▸ Exchange.orderly_play controller_keeps _ _
  have hbegun : (x.step controller (.call .submit)).run.begun = x.run.begun + 1 := by
    rw [Exchange.step_call]
    rfl
  have htwins : Exchange.Twins Stage.awaits Call.suits Redrafted x.run.begun
      (x.step controller (.call .submit)) (x.step controller (.call .submit)) :=
    ⟨hord.step_call controller_keeps .submit, hbegun ▸ Nat.lt_succ_self _, ⟨_, _, rfl⟩, rfl, rfl,
      rfl⟩
  have hplayed := htwins.play controller_keeps controller_overlooks hevents
  obtain ⟨hdraft, hcases⟩ := submit_awaits hord
  have hedits := edits_of_mem_callsIn hevents
  refine ⟨⟨hplayed.deeds, ?_, ?_⟩, fun hnone => ?_, fun earlier later r hsplit hfirst => ?_⟩
  · obtain ⟨inputs, key, hstate⟩ := hplayed.state
    rw [hstate]
  · obtain ⟨inputs, key, hstate⟩ := hplayed.state
    rw [hstate]
  · refine Eq.trans ?_ (draft_edited hedits hdraft)
    rcases hcases with ⟨v, q, hawaits, -⟩ | ⟨hreply, -⟩
    · exact (hawaits.play hevents hnone).2
    · exact hreply.play hevents
  · subst hsplit
    obtain ⟨hearlier, hrest⟩ := List.forall_mem_append.mp hevents
    have hlater := (List.forall_mem_cons.mp hrest).2
    have hcalls : callsIn (earlier ++ .answer x.run.begun (.reply 0 r) :: later) =
        callsIn (earlier ++ later) := by
      rw [callsIn, callsIn, List.filterMap_append, List.filterMap_append]
      rfl
    rw [hcalls] at hedits
    rcases hcases with ⟨v, q, hawaits, hfree, hquery, hedit⟩ | ⟨hreply, hnever⟩
    · obtain ⟨hemptied, hkept⟩ := hawaits.play_reply r hearlier hlater hfirst
      rw [hedit] at hemptied hkept
      refine ⟨?_, fun hnot => ?_⟩
      · rintro ⟨-, hnew, q', hquery', hgrants⟩
        obtain rfl : q = q' := Except.ok.inj (hquery.symm.trans hquery')
        exact (hemptied ⟨hnew, hgrants⟩).trans (draft_edited (edits_of_mem_callsIn hlater) rfl)
      · have hrefused := hkept fun ⟨hnew, hgrants⟩ => hnot ⟨hfree, hnew, q, hquery, hgrants⟩
        exact hrefused.trans (draft_edited hedits hdraft)
    · refine ⟨fun hempties => absurd hempties (hnever r), fun _ => ?_⟩
      rw [show y.run.state.draft = _ from hreply.play hevents, hcalls]
      exact draft_edited hedits hdraft

/-- Of two edits during an accepted submission the one before the reply is taken away and the one
after it is kept, and the submission does what it does without both. -/
theorem later_name_kept :
    let x : FormExchange := (Exchange.start (create {} .null [.refresh] "" {})).play controller
      [.call (.setField "name" (.text "spring"))]
    let y := (x.step controller (.call .submit)).play controller
      [.call (.setField "quota" (.int 7)), .answer 1 (.reply 0 (.answered 200 codeText)),
        .call (.setField "name" (.text "next")), .answer 1 (.ended (.ok .null))]
    y.run.state.inputs = Draft.defaults.put "name" (.text "next") ∧
      y.deedsOf 1 = ((x.step controller (.call .submit)).play controller
        [.answer 1 (.reply 0 (.answered 200 codeText)),
          .answer 1 (.ended (.ok .null))]).deedsOf 1 := by
  intro x y
  have hbegun : x.run.begun = 1 := rfl
  have hempties : x.run.state.IsEmptiedBy (.answered 200 codeText) :=
    ⟨rfl, rfl, _, rfl, _, envelopeOf_codeText _, rfl⟩
  obtain ⟨hsame, -, hreply⟩ := edits_do_not_leak _ _
    [.call (.setField "quota" (.int 7)), .answer x.run.begun (.reply 0 (.answered 200 codeText)),
      .call (.setField "name" (.text "next")), .answer x.run.begun (.ended (.ok .null))] x rfl (by
    simp only [List.forall_mem_cons, Event.IsBetween, Call.edits, and_self, List.not_mem_nil,
      false_imp_iff, implies_true])
  have hkept := (hreply [_] [_, _] _ rfl fun r hr => by simp at hr).1 hempties
  clear_value x
  simp only [hbegun, List.filter_cons, Event.answerTo?] at hsame hkept
  exact ⟨congrArg Prod.fst hkept, hsame.1⟩

end VoucherDesk.Form
