import VoucherDesk.Proofs.Dialogue.Record
import VoucherDesk.Proofs.Form.Exclusion
import VoucherDesk.Proofs.Value.Moves

/-!
# Loading before writing

A form that edits a voucher sends it whenever a submission is let in and its draft can be
sent, whether or not the voucher has ever been loaded. What it sends then is the draft: the
voucher that was loaded last, or the defaults if none was, under the edits made since.
-/

namespace VoucherDesk.Form

open Dialogue

/-- What the first turn of a call brings to the draft. -/
def Call.brings (f : Form) : Call → List Fields.Move
  | .openForm => if f.isEdit then [] else [.fill Draft.defaults]
  | .reset => [.fill Draft.defaults]
  | .setField name value => if (f.inputs.get? name).isSome then [.edit name value] else []
  | _ => []

/-- The voucher with which a single call has ended, if it has. -/
def shownBy : List (Nat × Except Failure Result) → Option Voucher
  | [(_, .ok (.voucher v))] => some v
  | _ => none

/-- What a voucher brings to the draft, if there is one. -/
def fillOf (v : Option Voucher) : List Fields.Move :=
  v.toList.map fun v => .fill (inputsOf v)

/-- A first turn brings to the draft what its call brings. -/
theorem begin_inputs (f : Form) (call : Call) :
    (f.begin call).state.inputs = (call.brings f).foldl Fields.Move.apply f.inputs := by
  cases call with
  | openForm =>
    simp only [Form.begin, Call.brings]
    cases f.isEdit with
    | true => rfl
    | false => rfl
  | load id => rfl
  | reset => rfl
  | setField name value =>
    simp only [Form.begin, Form.setField, Call.brings]
    cases (f.inputs.get? name).isSome with
    | true => rfl
    | false => rfl
  | setKey value => rfl
  | build => rfl
  | submit =>
    show f.submit.state.inputs = f.inputs
    cases submit_begins f with
    | fetches id other next state => rw [state]
    | sends v q submits free built query next state => rw [state]
    | ends r next edits =>
      cases edits with
      | nothing state => rw [state]
      | reset other state => cases other
      | field name value sets state => cases sets
      | key value sets state => cases sets

/-- The reply to a load fills the draft with the voucher that it shows, if it shows one. -/
theorem fetched_inputs (f : Form) (id : Value) (r : Reply) (n : Nat) :
    (f.fetched id r).state.inputs =
      (fillOf (shownBy ((f.fetched id r).endsAs n))).foldl Fields.Move.apply f.inputs := by
  unfold Form.fetched
  dsimp only
  split
  · rfl
  · rfl
  · split
    · rfl
    · rfl
    · rfl

/-- Any other answer to a load leaves the draft alone. -/
theorem resume_fetching_inputs (f : Form) (id : Value) (a : Answer) (n : Nat) :
    (f.resume (.fetching id) a).state.inputs =
      (fillOf (shownBy ((f.resume (.fetching id) a).endsAs n))).foldl Fields.Move.apply
        f.inputs := by
  cases a with
  | reply place r => exact fetched_inputs f id r n
  | _ => rfl

/-- A submission that goes on shows no voucher and leaves the draft alone. -/
theorem GoesOn.inputs {f : Form} {t : FormTurn} (h : GoesOn f t) : t.state.inputs = f.inputs := by
  cases h with
  | asks hook args stage next ask submission state => rw [state]
  | ends r next submitting same => exact same.inputs

/-- A later turn of a form that edits keeps the number that it edits. -/
theorem resume_editingId (f : Form) (stage : Stage) (a : Answer) :
    (f.resume stage a).state.editingId = f.editingId := by
  have hgoes {g : Form} (hg : g.editingId = f.editingId) (h : GoesOn g (f.resume stage a)) :
      (f.resume stage a).state.editingId = f.editingId := by
    cases h with
    | asks hook args stage next ask submission state => rw [state, hg]
    | ends r next submitting same => rw [same.editingId, hg]
  cases resume_resumes f stage a with
  | loaded id fetching ends state =>
    rcases state with state | ⟨v, state⟩
    · rw [state]
    · rw [state]
  | replied v q saving goesOn => exact goesOn.elim (hgoes rfl) (hgoes rfl)
  | hooked submission goesOn => exact hgoes rfl goesOn
  | ignored unfit next state => rw [state]

/-- So does a first turn. -/
theorem begin_editingId (f : Form) (call : Call) :
    (f.begin call).state.editingId = f.editingId := by
  cases begin_begins f call with
  | fetches id other next state => rw [state]
  | sends v q submits free built query next state => rw [state]
  | ends r next edits =>
    cases edits with
    | nothing state => rw [state]
    | reset other state => rw [state]; rfl
    | field name value sets state => rw [state]
    | key value sets state => rw [state]; rfl

/-- A form that edits keeps its draft when its request is accepted. -/
theorem saved_goesOn_of_isEdit {f : Form} (hedit : f.isEdit = true) (v : Voucher) (q : Query)
    (r : Reply) : GoesOn { f with loading := false } (f.saved v q r) := by
  unfold Form.saved
  dsimp only
  split
  · exact (GoesOn.endSubmit _ _).after _
  · exact GoesOn.endSubmit _ _
  · split
    · exact (GoesOn.endSubmit _ _).after _
    · split
      · exact (GoesOn.callRefresh _ _).after _
      · next hnew => exact absurd hedit hnew

/-- The turns of a submission of a form that edits leave its draft alone. -/
theorem resume_inputs_of_isSubmission {f : Form} (hedit : f.isEdit = true) {stage : Stage}
    (hstage : stage.isSubmission = true) (a : Answer) :
    (f.resume stage a).state.inputs = f.inputs := by
  cases resume_resumes f stage a with
  | loaded id fetching ends state => simp [fetching, Stage.isSubmission] at hstage
  | replied v q saving goesOn =>
    subst saving
    cases a with
    | reply place r => exact (saved_goesOn_of_isEdit hedit v q r).inputs
    | _ => rfl
  | hooked submission goesOn => exact goesOn.inputs
  | ignored unfit next state => rw [state]

/-- Whether a call loads the voucher with a number into a form that edits it. -/
def Call.loads (id : Int) : Call → Bool
  | .openForm => true
  | .load (.int m) => m == id
  | _ => false

/-- A load of the voucher with a number has ended with the voucher. -/
def HasLoaded (id : Int) (x : FormExchange) : Prop :=
  ∃ n v, (n, .ok (.voucher v)) ∈ x.run.ended ∧ x.calls[n]?.any (Call.loads id) = true

/-- The voucher with which an answer ends a load, if it does. -/
def loadedBy (x : FormExchange) (n : Nat) (a : Answer) : Option Voucher :=
  if x.calls[n]?.any Call.isSubmit then none
  else shownBy ((x.step controller (.answer n a)).run.ended.drop x.run.ended.length)

/-- What an event brings to the draft of a form that edits. -/
def brings (x : FormExchange) : Event Call → List Fields.Move
  | .call call => call.brings x.run.state
  | .answer n a => fillOf (loadedBy x n a)

/-- Whether a question asks the server to change a voucher. -/
def isPut (q : Question) : Bool :=
  match q.ask with
  | .query q => q.method == .put
  | _ => false

variable {x : FormExchange}

/-- One event makes the draft of a form that edits what it brings. -/
theorem step_inputs (h : x.Orderly Stage.awaits Call.suits) (hedit : x.run.state.isEdit = true)
    (e : Event Call) :
    (x.step controller e).run.state.inputs =
      (brings x e).foldl Fields.Move.apply x.run.state.inputs := by
  cases e with
  | call call =>
    rw [Exchange.step_call]
    exact begin_inputs x.run.state call
  | answer n a =>
    by_cases hopen : ∃ q ∈ x.pending, q.isAnsweredBy n a = true
    · obtain ⟨q, hq, hans⟩ := hopen
      obtain rfl : q.number = n := Question.number_of_isAnsweredBy hans
      obtain ⟨stage, hw, -⟩ := h.exists_stage hq
      obtain ⟨call, hcall, hsuits⟩ := h.suits _ hw
      have hstep := Exchange.step_answer (c := controller) hq hans (h.lookup hw)
      have hsub : stage.isSubmission = call.isSubmit := hsuits
      simp only [brings, loadedBy, hcall, Option.any_some]
      cases hkind : call.isSubmit with
      | true =>
        rw [hstep]
        exact resume_inputs_of_isSubmission hedit (hsub.trans hkind) a
      | false =>
        cases stage with
        | fetching id =>
          rw [hstep]
          simp only [Exchange.continues, List.drop_left, Bool.false_eq_true, ite_false]
          exact resume_fetching_inputs x.run.state id a q.number
        | _ => cases hsub.trans hkind
    · have hsame : x.step controller (.answer n a) = x :=
        Exchange.step_unasked fun q hq hans => hopen ⟨q, hq, hans⟩
      simp only [brings, loadedBy, hsame, List.drop_length]
      split <;> rfl

/-- No event changes the number that a form edits. -/
theorem step_editingId (h : x.Orderly Stage.awaits Call.suits) (e : Event Call) :
    (x.step controller e).run.state.editingId = x.run.state.editingId := by
  cases e with
  | call call =>
    rw [Exchange.step_call]
    exact begin_editingId x.run.state call
  | answer n a =>
    rcases h.answer_cases controller n a with hsame | ⟨q, stage, -, -, -, -, hstep⟩
    · rw [hsame]
    · rw [hstep]
      exact resume_editingId x.run.state stage a

/-- Events in order make the draft of a form that edits what they bring. -/
theorem play_inputs (h : x.Orderly Stage.awaits Call.suits) (hedit : x.run.state.isEdit = true)
    (events : List (Event Call)) :
    (x.play controller events).run.state.inputs =
        (x.gather controller brings events).foldl Fields.Move.apply x.run.state.inputs ∧
      (x.play controller events).run.state.isEdit = true := by
  induction events generalizing x with
  | nil => exact ⟨rfl, hedit⟩
  | cons e rest ih =>
    have hedit' : (x.step controller e).run.state.isEdit = true := by
      rw [Form.isEdit, step_editingId h]
      exact hedit
    rw [Exchange.gather, List.foldl_append, ← step_inputs h hedit]
    exact ih (h.step controller_keeps e) hedit'

/-- What a form that edits prepares changes its voucher. -/
theorem method_of_prepared {f : Form} (hedit : f.isEdit = true) {q : Query}
    (h : f.prepared = .ok q) : q.method = .put := by
  obtain ⟨v, -, hquery⟩ := bind_eq_ok.mp h
  simp only [saveQuery, hedit, ite_true] at hquery
  cases hpayload : v.updatePayload with
  | error e => simp [hpayload, Except.map] at hquery
  | ok payload =>
    obtain rfl : .updateVoucher (.record payload) = q := by
      simpa [hpayload, Except.map] using hquery
    rfl

/-- A later turn of a form sends no query. -/
theorem query_notMem_asks_resume (f : Form) (stage : Stage) (a : Answer) (q : Query) :
    .query q ∉ (f.resume stage a).asks := by
  have hgoes {g : Form} (h : GoesOn g (f.resume stage a)) : .query q ∉ (f.resume stage a).asks := by
    cases h with
    | asks hook args stage' next ask submission state => simp [Turn.asks, next]
    | ends r next submitting same => simp [Turn.asks, next]
  cases resume_resumes f stage a with
  | loaded id fetching ends state =>
    obtain ⟨r, next⟩ := ends
    simp [Turn.asks, next]
  | replied v q' saving goesOn => exact goesOn.elim hgoes hgoes
  | hooked submission goesOn => exact hgoes goesOn
  | ignored unfit next state => simp [Turn.asks, next]

/-- A submission that is let in asks for what the form prepares. -/
theorem asksAt_submit (hfree : x.run.state.submitting = false) {q : Query}
    (h : x.run.state.prepared = .ok q) :
    x.asksAt controller (.call .submit) = [⟨x.run.begun, 0, .query q⟩] := by
  obtain ⟨v, hbuild, hquery⟩ := bind_eq_ok.mp h
  have hturn : controller.begin x.run.state .submit = _ :=
    submit_of_saveQuery hfree hbuild hquery
  rw [Exchange.asksAt_call, hturn]
  rfl

/-- A form that edits sends its voucher just when a submission is let in whose draft can be sent. -/
theorem exists_put_iff (h : x.Orderly Stage.awaits Call.suits) (hedit : x.run.state.isEdit = true)
    (e : Event Call) :
    (∃ p ∈ x.asksAt controller e, isPut p = true) ↔
      e = .call .submit ∧ x.run.state.submitting = false ∧ ∃ q, x.run.state.prepared = .ok q := by
  constructor
  · rintro ⟨p, hp, hput⟩
    cases e with
    | call call =>
      rw [Exchange.asksAt_call] at hp
      obtain ⟨-, hask⟩ := mem_questions.mp hp
      have hmem := List.mem_of_getElem? hask
      cases begin_begins x.run.state call with
      | fetches id other next state =>
        have hget : p.ask = .query (.showVoucher id) := by
          simpa [Turn.asks, controller, next] using hmem
        simp [isPut, hget, Query.showVoucher] at hput
      | sends v q submits free built query next state =>
        refine ⟨submits ▸ rfl, free, q, ?_⟩
        simp only [prepared, built]
        exact query
      | ends r next edits => simp [Turn.asks, controller, next] at hmem
    | answer n a =>
      rcases h.asksAt_answer controller n a with hnone | ⟨stage, -, hasks⟩
      · rw [hnone] at hp
        cases hp
      · rw [hasks] at hp
        obtain ⟨-, hask⟩ := mem_questions.mp hp
        have hquery : ∃ query, p.ask = .query query := by
          unfold isPut at hput
          split at hput
          · next query hp => exact ⟨query, hp⟩
          · cases hput
        obtain ⟨query, hquery⟩ := hquery
        exact absurd (hquery ▸ List.mem_of_getElem? hask) (query_notMem_asks_resume _ stage a query)
  · rintro ⟨rfl, hfree, q, hq⟩
    rw [asksAt_submit hfree hq]
    exact ⟨_, List.mem_singleton_self _, by simp [isPut, method_of_prepared hedit hq]⟩

/-- Whenever a form that edits the voucher with a number sends a change, the voucher has been loaded
before. -/
def LoadsFirst (settings : Settings) (id : Int) (hooks : List Hook) (directory : String)
    (files : FileTree) (events : List (Event Call)) : Prop :=
  ∀ before e after, events = before ++ e :: after →
    let x := played settings (.int id) hooks directory files before
    (∃ q ∈ x.asksAt controller e, isPut q = true) → HasLoaded id x

/-- What is brought to the draft of a form that edits, from the moment it is created. -/
def movesOf (settings : Settings) (id : Int) (hooks : List Hook) (directory : String)
    (files : FileTree) (events : List (Event Call)) : List Fields.Move :=
  (Exchange.start (create settings (.int id) hooks directory files)).gather controller brings events

/-- The draft with which a form is created can be sent, whatever voucher is edited. -/
theorem prepared_create (settings : Settings) (id : Int) (hooks : List Hook) (directory : String)
    (files : FileTree) :
    (create settings (.int id) hooks directory files).prepared =
      .ok (.updateVoucher (.record
        (({ id := some id } : Voucher).commonPayload ++ [("id", .int id)]))) := rfl

/-- A form that edits changes its voucher only after it was loaded just in those runs in which no
submission with a draft that can be sent is let in before. Whenever one is let in it sends the
draft: what was loaded last, or the defaults, under the edits made since; so a form that is
submitted at once overwrites its voucher with the defaults. -/
theorem loadsFirst_iff (settings : Settings) (id : Int) (hooks : List Hook) (directory : String)
    (files : FileTree) (events : List (Event Call)) :
    (LoadsFirst settings id hooks directory files events ↔
      ∀ before after, events = before ++ .call .submit :: after →
        let x := played settings (.int id) hooks directory files before
        x.run.state.submitting = false → (∃ q, x.run.state.prepared = .ok q) → HasLoaded id x) ∧
    (∀ before after q, events = before ++ .call .submit :: after →
      let x := played settings (.int id) hooks directory files before
      let moves := movesOf settings id hooks directory files before
      x.run.state.submitting = false → x.run.state.prepared = .ok q →
        x.asksAt controller (.call .submit) = [⟨x.run.begun, 0, .query q⟩] ∧ q.method = .put ∧
        x.run.state.inputs =
          Fields.override (Fields.lastFill Draft.defaults moves) (Fields.editsSinceFill moves)) ∧
    ∀ after, events = .call .submit :: after →
      ¬ LoadsFirst settings id hooks directory files events := by
  have hord (before : List (Event Call)) := Exchange.orderly_play controller_keeps
    (create settings (.int id) hooks directory files) before
  have hplay (before : List (Event Call)) := play_inputs
    (Exchange.orderly_start (create settings (.int id) hooks directory files)) rfl before
  refine ⟨⟨fun hloads before after hevents hfree hprepared => ?_,
    fun hsubmits before e after hevents hput => ?_⟩, fun before after q hevents hfree hq => ?_, ?_⟩
  · exact hloads before (.call .submit) after hevents
      ((exists_put_iff (hord before) (hplay before).2 _).mpr ⟨rfl, hfree, hprepared⟩)
  · obtain ⟨rfl, hfree, hprepared⟩ := (exists_put_iff (hord before) (hplay before).2 e).mp hput
    exact hsubmits before after hevents hfree hprepared
  · refine ⟨asksAt_submit hfree hq, method_of_prepared (hplay before).2 hq, ?_⟩
    exact (hplay before).1.trans (Fields.foldl_apply ..)
  · intro after hevents hloads
    have hput := (exists_put_iff (hord []) (hplay []).2 (.call .submit)).mpr
      ⟨rfl, rfl, _, prepared_create settings id hooks directory files⟩
    obtain ⟨n, v, hended, -⟩ := hloads [] (.call .submit) after hevents hput
    cases hended

/-- A form that edits voucher 5 and is submitted at once sends a change of it unloaded. -/
theorem not_loadsFirst_submit : ¬ LoadsFirst {} 5 [] "" {} [.call .submit] := by
  intro hloads
  have hput : ∃ q ∈ (played {} (.int 5) [] "" {} []).asksAt controller (.call .submit),
      isPut q = true := ⟨_, List.mem_singleton_self _, rfl⟩
  obtain ⟨n, v, hended, -⟩ := hloads [] (.call .submit) [] rfl hput
  cases hended

end VoucherDesk.Form
