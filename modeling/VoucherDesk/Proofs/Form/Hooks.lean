import VoucherDesk.Proofs.Dialogue.Route
import VoucherDesk.Proofs.Form.Exclusion
import VoucherDesk.Proofs.Json.Encoding

/-!
# Hooks after a save

Once the request of a submission is accepted, every hook that is due is called, whatever the
others came to and whatever else is done to the form meanwhile. Faults of refresh and close
are told once each and the submission still gives that it was accepted; a fault of the
question whether to keep codes is given back instead, and nobody is told.
-/

namespace VoucherDesk.Form

open Dialogue

/-- Two forms are the same but for the draft, its key, and the flags and path that they show. -/
structure SameMake (f g : Form) : Prop where
  settings : g.settings = f.settings
  editingId : g.editingId = f.editingId
  hooks : g.hooks = f.hooks
  exportDirectory : g.exportDirectory = f.exportDirectory
  files : g.files = f.files

namespace SameMake

variable {f g : Form}

theorem trans {h : Form} (hg : SameMake f g) (hh : SameMake g h) : SameMake f h :=
  ⟨hh.settings.trans hg.settings, hh.editingId.trans hg.editingId, hh.hooks.trans hg.hooks,
    hh.exportDirectory.trans hg.exportDirectory, hh.files.trans hg.files⟩

theorem isEdit (h : SameMake f g) : g.isEdit = f.isEdit := by
  rw [Form.isEdit, Form.isEdit, h.editingId]

theorem codeDirectory (h : SameMake f g) : g.codeDirectory = f.codeDirectory := by
  rw [Form.codeDirectory, Form.codeDirectory, h.exportDirectory, h.settings]

end SameMake

/-- A first turn changes nothing of a form but its draft, key and flags. -/
theorem begin_sameMake (f : Form) (call : Call) : SameMake f (f.begin call).state := by
  cases begin_begins f call with
  | fetches id other next state =>
    rw [state]
    exact ⟨rfl, rfl, rfl, rfl, rfl⟩
  | sends v q submits free built query next state =>
    rw [state]
    exact ⟨rfl, rfl, rfl, rfl, rfl⟩
  | ends r next edits =>
    cases edits with
    | nothing state => rw [state]; exact ⟨rfl, rfl, rfl, rfl, rfl⟩
    | reset other state => rw [state]; exact ⟨rfl, rfl, rfl, rfl, rfl⟩
    | field name value sets state => rw [state]; exact ⟨rfl, rfl, rfl, rfl, rfl⟩
    | key value sets state => rw [state]; exact ⟨rfl, rfl, rfl, rfl, rfl⟩

/-- A form with a submission under way, the same as another but for what it shows. -/
structure Submitting (f g : Form) : Prop where
  submitting : g.submitting = true
  same : SameMake f g

/-- While a submission is under way the other calls neither end it nor begin another. -/
theorem controller_tolerates (f : Form) :
    controller.Tolerates (Submitting f) Stage.isSubmission where
  begin := by
    intro s call hs
    have hat : (controller.begin s call).isAt Stage.isSubmission = false := by
      refine Bool.eq_false_iff.mpr fun hat => ?_
      exact Bool.false_ne_true ((controller_guards.begin_free hat).symm.trans hs.submitting)
    have hflag := controller_guards.begin_flag s call
    rw [hs.submitting, Bool.true_or] at hflag
    exact ⟨⟨hflag, hs.same.trans (begin_sameMake s call)⟩, hat⟩
  resume := by
    intro s stage a hs hstage
    obtain ⟨hflag, hat⟩ := controller_guards.resume_free (s := s) a hstage
    refine ⟨⟨hflag.trans hs.submitting, hs.same.trans ?_⟩, hat⟩
    show SameMake s (s.resume stage a).state
    cases resume_resumes s stage a with
    | loaded id fetching ends state =>
      rcases state with state | ⟨v, state⟩
      · rw [state]
        exact ⟨rfl, rfl, rfl, rfl, rfl⟩
      · rw [state]
        exact ⟨rfl, rfl, rfl, rfl, rfl⟩
    | replied v q saving goesOn => simp [saving, Stage.isSubmission] at hstage
    | hooked submission goesOn => simp [submission] at hstage
    | ignored unfit next state =>
      rw [state]
      exact ⟨rfl, rfl, rfl, rfl, rfl⟩

/-- Whether a hook of the form is due after a request with data was accepted: it is there, and
there are codes of new vouchers if it asks whether to keep them. -/
def isDue (f : Form) (data : Value) (h : Hook) : Bool :=
  f.hooks.contains h && (h != .confirm || (!f.isEdit && data.isTruthy))

/-- The hooks that are due after a request with data was accepted, in order. -/
def due (f : Form) (data : Value) : List Hook :=
  [.refresh, .close, .confirm].filter (f.isDue data)

/-- The hooks that are called after every accepted submission, in order. -/
def early (f : Form) : List Hook := [.refresh, .close].filter f.hooks.contains

/-- Those hooks are due first, and then the question whether to keep codes. -/
theorem due_eq (f : Form) (data : Value) :
    f.due data = f.early ++ [Hook.confirm].filter (f.isDue data) := by
  have hearly : [Hook.refresh, .close].filter (f.isDue data) = f.early := by
    refine List.filter_congr fun h hh => ?_
    have hne : (h != .confirm) = true := by
      simp only [List.mem_cons, List.not_mem_nil, or_false] at hh
      rcases hh with rfl | rfl <;> rfl
    rw [isDue, hne, Bool.true_or, Bool.and_true]
  rw [← hearly]
  exact List.filter_append [Hook.refresh, .close] [.confirm]

/-- The answer that tells how a hook ended: with a value or by raising a fault. -/
def endOf (back : Hook → Except Fault Value) (h : Hook) : Answer :=
  .ended ((back h).mapError .fault)

/-- The messages of the faults that hooks raised, in the order of the hooks. -/
def messagesOf (back : Hook → Except Fault Value) (hooks : List Hook) : List String :=
  hooks.filterMap fun h =>
    match back h with
    | .ok _ => none
    | .error e => some e.message

theorem messagesOf_of_ok {back : Hook → Except Fault Value} {h : Hook} {v : Value}
    (hback : back h = .ok v) : messagesOf back [h] = [] := by
  simp [messagesOf, hback]

theorem messagesOf_of_error {back : Hook → Except Fault Value} {h : Hook} {e : Fault}
    (hback : back h = .error e) : messagesOf back [h] = [e.message] := by
  simp [messagesOf, hback]

/-- What is seen of a hook whose faults are told: it is called, and its fault is
told. -/
def hookDeeds (back : Hook → Except Fault Value) (h : Hook) : List (Deed Result) :=
  .calls h [] :: (messagesOf back [h]).map fun message => .has (.error message)

/-- What a submission gives after hooks: a fault of the question whether to keep codes, or that the
request was accepted. -/
def resultOf (back : Hook → Except Fault Value) (hooks : List Hook) : Except Failure Result :=
  if hooks.contains .confirm then
    match back .confirm with
    | .ok _ => .ok (.accepted true)
    | .error e => .error (.fault e)
  else .ok (.accepted true)

/-- A call has called hooks and told errors, both in order, and has given one result. -/
structure Reports (called : List Hook) (told : List String) (r : Except Failure Result)
    (deeds : List (Deed Result)) : Prop where
  called : deeds.filterMap Deed.hook? = called
  told : deeds.filterMap Deed.told? = told
  given : deeds.filterMap Deed.given? = [r]

namespace Reports

variable {called : List Hook} {told : List String} {r : Except Failure Result}
  {deeds : List (Deed Result)}

theorem calls (h : Reports called told r deeds) (hook : Hook) (args : List Value) :
    Reports (hook :: called) told r (.calls hook args :: deeds) :=
  ⟨congrArg (hook :: ·) h.called, h.told, h.given⟩

theorem tells (h : Reports called told r deeds) (message : String) :
    Reports called (message :: told) r (.has (.error message) :: deeds) :=
  ⟨h.called, congrArg (message :: ·) h.told, h.given⟩

theorem succeeds (h : Reports called told r deeds) (message : String) :
    Reports called told r (.has (.success message) :: deeds) := ⟨h.called, h.told, h.given⟩

theorem sends (h : Reports called told r deeds) (q : Query) :
    Reports called told r (.sends q :: deeds) := ⟨h.called, h.told, h.given⟩

theorem gives (r : Except Failure Result) : Reports [] [] r [.gives r] := ⟨rfl, rfl, rfl⟩

/-- Hooks whose faults are told come first. -/
theorem hooks (h : Reports called told r deeds) (back : Hook → Except Fault Value)
    (hooks : List Hook) :
    Reports (hooks ++ called) (messagesOf back hooks ++ told) r
      (hooks.flatMap (hookDeeds back) ++ deeds) := by
  induction hooks with
  | nil => exact h
  | cons hook rest ih =>
    have hmessages : messagesOf back (hook :: rest) =
        messagesOf back [hook] ++ messagesOf back rest := by
      rw [← List.singleton_append, messagesOf, List.filterMap_append]
      rfl
    rw [hmessages, List.flatMap_cons, List.append_assoc, List.append_assoc]
    cases hback : back hook with
    | ok value =>
      rw [hookDeeds, messagesOf_of_ok hback]
      exact ih.calls hook []
    | error e =>
      rw [hookDeeds, messagesOf_of_error hback]
      exact (ih.tells e.message).calls hook []

end Reports

/-- From a turn on, a submission of a form calls hooks and is told how they end; it tells errors and
gives a result, whatever is done to the form meanwhile. -/
def Runs (f : Form) (back : Hook → Except Fault Value) (turn : Form → FormTurn)
    (hooks : List Hook) (told : List String) (r : Except Failure Result) : Prop :=
  ∃ deeds, Reports hooks told r deeds ∧ ∀ s, Submitting f s →
    Course controller Stage.awaits (Submitting f) (turn s) (hooks.map (endOf back)) deeds

variable {f : Form} {back : Hook → Except Fault Value}

/-- The only open question of a stage that asks a hook is answered when the hook has ended. -/
theorem fits_hook {stage : Stage} {hook : Hook} {args : List Value}
    (hask : stage.ask = .hook hook args) (r : Except Failure Value) (n : Nat) :
    ∃ q ∈ stage.awaits n, q.isAnsweredBy n (.ended r) = true := by
  refine ⟨⟨n, 0, stage.ask⟩, List.mem_singleton_self _, ?_⟩
  simp [Question.isAnsweredBy, Answer.fits, hask]

section Routes

variable (back) {I E : Form → Prop} {answers : List Answer} {deeds : List (Deed Result)}

/-- A hook is called, and the submission goes on when it has ended. -/
theorem waitFor_route {hook : Hook} {args : List Value} {stage : Stage} {b : Except Failure Value}
    (hask : stage.ask = .hook hook args)
    (h : ∀ s, I s → Route controller Stage.awaits I E (s.resume stage (.ended b)) answers deeds)
    {s : Form} (hs : I s) :
    Route controller Stage.awaits I E (.waitFor s (.hook hook args) stage) (.ended b :: answers)
      (.calls hook args :: deeds) :=
  .waits (Turn.waitFor s (.hook hook args) stage) _ stage _ _ deeds rfl hs (fits_hook hask b) h

/-- A hook whose fault is told is called if it is there, and then the submission goes on. -/
theorem callHook_route {turn : Form → FormTurn} (hook : Hook) (stage : Stage)
    (hask : stage.ask = .hook hook [])
    (hresume : ∀ s b, Form.resume s stage (.ended b) = s.afterHook hook b (turn s))
    (hhooks : ∀ s, I s → s.hooks = f.hooks)
    (h : ∀ s, I s → Route controller Stage.awaits I E (turn s) answers deeds) (s : Form)
    (hs : I s) :
    let called := [hook].filter f.hooks.contains
    Route controller Stage.awaits I E
      (if s.hooks.contains hook then .waitFor s (.hook hook []) stage else turn s)
      (called.map (endOf back) ++ answers) (called.flatMap (hookDeeds back) ++ deeds) := by
  intro called
  cases hthere : f.hooks.contains hook with
  | false =>
    have hcalled : called = [] :=
      List.filter_cons_of_neg (by simp only [hthere, Bool.false_eq_true, not_false_eq_true])
    rw [hcalled, hhooks s hs, hthere]
    exact h s hs
  | true =>
    have hcalled : called = [hook] := List.filter_cons_of_pos hthere
    rw [hcalled, hhooks s hs, hthere, if_pos rfl]
    refine waitFor_route hask (fun s' hs' => ?_) hs
    rw [hresume]
    cases hback : back hook with
    | ok value =>
      rw [messagesOf_of_ok hback]
      exact h s' hs'
    | error e =>
      rw [messagesOf_of_error hback]
      exact (h s' hs').after
        [.log ⟨.warning, .form, hook.name ++ " after save failed: " ++ e.message⟩, .error e.message]

/-- Refresh comes first and close second, before codes are offered. -/
theorem callRefresh_route {saved : Saved} (hhooks : ∀ s, I s → s.hooks = f.hooks)
    (h : ∀ s, I s → Route controller Stage.awaits I E (s.offerCodes saved) answers deeds)
    (s : Form) (hs : I s) :
    Route controller Stage.awaits I E (s.callRefresh saved)
      (f.early.map (endOf back) ++ answers) (f.early.flatMap (hookDeeds back) ++ deeds) := by
  have hearly : f.early =
      [Hook.refresh].filter f.hooks.contains ++ [Hook.close].filter f.hooks.contains :=
    List.filter_append [Hook.refresh] [Hook.close]
  rw [hearly, List.map_append, List.flatMap_append, List.append_assoc, List.append_assoc]
  refine callHook_route back .refresh (.refreshing saved) rfl (fun _ _ => rfl) hhooks
    (fun s' hs' => ?_) s hs
  exact callHook_route back .close (.closing saved) rfl (fun _ _ => rfl) hhooks h s' hs'

end Routes

namespace Runs

variable {turn : Form → FormTurn} {hooks : List Hook} {told : List String}
  {r : Except Failure Result}

/-- A submission that ends gives its result. -/
theorem endSubmit (f : Form) (back : Hook → Except Fault Value) (r : Except Failure Bool) :
    Runs f back (fun s => s.endSubmit r) [] [] (r.map .accepted) :=
  ⟨[.gives (r.map .accepted)], .gives _, fun s _ => .ends (s.endSubmit r) _ rfl⟩

/-- A turn that is the same for all forms in question. -/
theorem congr {turn' : Form → FormTurn} (h : Runs f back turn hooks told r)
    (hturn : ∀ s, Submitting f s → turn' s = turn s) : Runs f back turn' hooks told r := by
  obtain ⟨deeds, hreports, hcourse⟩ := h
  exact ⟨deeds, hreports, fun s hs => hturn s hs ▸ hcourse s hs⟩

/-- A hook is called, and the submission goes on when it has ended. -/
theorem asks {args : List Value} (h : Runs f back turn hooks told r) (hook : Hook) (stage : Stage)
    (hask : stage.ask = .hook hook args)
    (hresume : ∀ s, Form.resume s stage (endOf back hook) = turn s) :
    Runs f back (fun s => .waitFor s (.hook hook args) stage) (hook :: hooks) told r := by
  obtain ⟨deeds, hreports, hcourse⟩ := h
  refine ⟨.calls hook args :: deeds, hreports.calls hook args, fun s hs => ?_⟩
  have hrest : ∀ s', Submitting f s' → Route controller Stage.awaits (Submitting f)
      (fun _ => True) (s'.resume stage (endOf back hook)) (hooks.map (endOf back)) deeds :=
    fun s' hs' => hresume s' ▸ (hcourse s' hs').route
  exact (waitFor_route hask hrest hs).course

end Runs

/-- The hooks whose faults are told: all but the question whether to keep codes. -/
def tellable (hooks : List Hook) : List Hook := hooks.filter (· != .confirm)

/-- A fault of the question whether to keep codes is given. -/
theorem resultOf_of_error {hooks : List Hook} (hasked : .confirm ∈ hooks) {e : Fault}
    (hback : back .confirm = .error e) : resultOf back hooks = .error (.fault e) := by
  rw [resultOf, if_pos (List.contains_iff_mem.mpr hasked), hback]

/-- Without such a fault it is given that the request was accepted. -/
theorem resultOf_of_ok {hooks : List Hook}
    (hwell : .confirm ∈ hooks → ∃ answer, back .confirm = .ok answer) :
    resultOf back hooks = .ok (.accepted true) := by
  unfold resultOf
  split
  · next hasked =>
    obtain ⟨answer, hback⟩ := hwell (List.contains_iff_mem.mp hasked)
    rw [hback]
  · rfl

/-- Without such a fault the faults of all hooks are told. -/
theorem messagesOf_tellable {hooks : List Hook}
    (hwell : .confirm ∈ hooks → ∃ answer, back .confirm = .ok answer) :
    messagesOf back (tellable hooks) = messagesOf back hooks := by
  unfold messagesOf tellable
  rw [List.filterMap_filter]
  refine List.filterMap_congr fun h hh => ?_
  by_cases hask : h = .confirm
  · subst hask
    obtain ⟨answer, hback⟩ := hwell hh
    simp [hback]
  · simp [hask]

/-- The codes that a reply brings can be kept if the operator wants to. -/
def CanKeep (f : Form) (back : Hook → Except Fault Value) (s : Saved) : Prop :=
  ∀ items answer, s.data = .list items → back .confirm = .ok answer → answer.isTruthy = true →
    ∃ w, Export.write f.files f.codeDirectory s.voucher.name (items.map Value.plain) = .ok w

theorem SameMake.isDue {g : Form} (h : SameMake f g) (data : Value) (hook : Hook) :
    g.isDue data hook = f.isDue data hook := by
  rw [Form.isDue, Form.isDue, h.hooks, h.isEdit]

/-- Where the question whether to keep codes is not due the submission ends. -/
theorem offerCodes_of_not_due {s : Saved} (hdata : s.data = .null ∨ ∃ items, s.data = .list items)
    (hdue : f.isDue s.data .confirm = false) : f.offerCodes s = f.endSubmit (.ok true) := by
  have hnot : f.hooks.contains .confirm = true → (f.isEdit || !s.data.isTruthy) = true := by
    intro hasked
    simp only [Form.isDue, hasked, Bool.true_and] at hdue
    cases hedit : f.isEdit with
    | true => rfl
    | false => simpa [hedit] using hdue
  unfold Form.offerCodes
  split
  · rfl
  · next hoffers =>
    rcases hdata with hnull | ⟨items, hitems⟩
    · simp [hnull, Value.isTruthy] at hoffers
    · simp only [hitems, Value.elements?]
      rw [if_neg fun hasked => hoffers (hnot hasked)]

/-- Where it is due the operator is asked, with the parts of the data as codes and the name of the
file. -/
theorem offerCodes_of_due {s : Saved} {parts : List Value} (hparts : s.data.elements? = some parts)
    (hdue : f.isDue s.data .confirm = true) :
    f.offerCodes s =
      .waitFor f (.hook .confirm [.list ((parts.map Value.plain).map .text),
        .text (Export.fileName s.voucher.name)]) (.confirming s.voucher.name
          (parts.map Value.plain)) := by
  obtain ⟨hasked, hoffers⟩ := Bool.and_eq_true_iff.mp hdue
  have hnot : (f.isEdit || !s.data.isTruthy) = false := by simpa using hoffers
  unfold Form.offerCodes
  rw [if_neg (by simp [hnot])]
  simp only [hparts, hasked, ite_true]

/-- After the question whether to keep codes they are kept or not, and a fault goes through. -/
theorem afterConfirm_runs {saved : Saved} (hkeep : CanKeep f back saved) {items : List Value}
    (hitems : saved.data = .list items) :
    Runs f back (fun s => s.afterConfirm saved.voucher.name (items.map Value.plain)
      ((back .confirm).mapError .fault)) [] [] (resultOf back [.confirm]) := by
  cases hback : back .confirm with
  | error e =>
    have hresult : resultOf back [.confirm] = .error (.fault e) := by simp [resultOf, hback]
    rw [hresult]
    exact Runs.endSubmit f back (.error (.fault e))
  | ok answer =>
    have hresult : resultOf back [.confirm] = .ok (.accepted true) := by simp [resultOf, hback]
    rw [hresult]
    cases htruthy : answer.isTruthy with
    | false =>
      exact (Runs.endSubmit f back (.ok true)).congr fun s _ => by
        simp [Form.afterConfirm, Except.mapError, htruthy]
    | true =>
      obtain ⟨⟨files, path⟩, hwrite⟩ := hkeep items answer hitems hback htruthy
      let message := "Saved " ++ toString (items.map Value.plain).length ++ " code(s) to " ++ path
      refine ⟨_, (Reports.gives _).succeeds message, fun s hs => ?_⟩
      simp only [Form.afterConfirm, Except.mapError, htruthy, ite_true, Form.keepCodes,
        hs.same.files, hs.same.codeDirectory, hwrite]
      exact Course.ends _ _ rfl

/-- Codes of new vouchers are offered if there is somebody to ask. -/
theorem offerCodes_runs {saved : Saved}
    (hdata : saved.data = .null ∨ ∃ items, saved.data = .list items)
    (hkeep : f.isDue saved.data .confirm = true → CanKeep f back saved) :
    Runs f back (fun s => s.offerCodes saved) ([.confirm].filter (f.isDue saved.data)) []
      (resultOf back ([.confirm].filter (f.isDue saved.data))) := by
  cases hdue : f.isDue saved.data .confirm with
  | false =>
    rw [List.filter_cons_of_neg (by simp [hdue]), List.filter_nil]
    exact (Runs.endSubmit f back (.ok true)).congr fun s hs =>
      offerCodes_of_not_due hdata ((hs.same.isDue ..).trans hdue)
  | true =>
    rw [List.filter_cons_of_pos hdue, List.filter_nil]
    obtain ⟨items, hitems⟩ : ∃ items, saved.data = .list items := by
      refine hdata.resolve_left fun hnull => ?_
      simp [Form.isDue, hnull, Value.isTruthy] at hdue
    have hparts : saved.data.elements? = some items := congrArg Value.elements? hitems
    have hasks := (afterConfirm_runs (hkeep hdue) hitems).asks .confirm
      (.confirming saved.voucher.name (items.map Value.plain)) rfl fun _ => rfl
    exact hasks.congr fun s hs => offerCodes_of_due hparts ((hs.same.isDue ..).trans hdue)

/-- All hooks that are due but the question whether to keep codes are called first. -/
theorem tellable_due (f : Form) (data : Value) : tellable (f.due data) = f.early := by
  rw [tellable, due, List.filter_filter]
  simp [early, isDue, List.filter_cons]

/-- None of those is the question. -/
theorem resultOf_due (f : Form) (back : Hook → Except Fault Value) (data : Value) :
    resultOf back (f.due data) = resultOf back ([.confirm].filter (f.isDue data)) := by
  have hearly : f.early.contains .confirm = false := by simp [early]
  rw [resultOf, resultOf, due_eq, List.contains_append, hearly, Bool.false_or]

/-- Refresh and close are called and told of before codes are offered. -/
theorem callRefresh_runs (saved : Saved)
    (hdata : saved.data = .null ∨ ∃ items, saved.data = .list items)
    (hkeep : f.isDue saved.data .confirm = true → CanKeep f back saved) :
    Runs f back (fun s => s.callRefresh saved) (f.due saved.data)
      (messagesOf back (tellable (f.due saved.data))) (resultOf back (f.due saved.data)) := by
  obtain ⟨deeds, hreports, hcourse⟩ := offerCodes_runs hdata hkeep
  have hearly := hreports.hooks back f.early
  rw [List.append_nil, ← due_eq] at hearly
  rw [tellable_due, resultOf_due]
  refine ⟨_, hearly, fun s hs => ?_⟩
  rw [due_eq, List.map_append]
  exact (callRefresh_route back (fun g hg => hg.same.hooks) (fun g hg => (hcourse g hg).route)
    s hs).course

/-- The form as the hooks of an accepted submission find it: it does not load, and one for new
vouchers is empty. -/
def settled (f : Form) : Form :=
  if f.isEdit then { f with loading := false } else { f with loading := false }.reset

/-- What the operator is told of an accepted submission. -/
def acceptance (f : Form) : String :=
  if f.isEdit then "Redemption code updated" else "Redemption code created"

/-- An accepted submission goes on with the refresh hook, after a log entry and a notice. -/
theorem saved_of_accepted (f : Form) {v : Voucher} {q : Query} {r : Reply} {envelope : Envelope}
    (henvelope : q.envelopeOf r = .ok envelope) (hsuccess : envelope.success = true) :
    ∃ entry, f.saved v q r =
      (f.settled.callRefresh ⟨v, envelope.data⟩).after [.log entry, .success f.acceptance] := by
  unfold settled acceptance
  cases hedit : f.isEdit with
  | true =>
    have hedits : ({ f with loading := false } : Form).isEdit = true := hedit
    simp only [Form.saved, henvelope, hsuccess, hedits, Bool.not_true, Bool.false_eq_true,
      ite_false, ite_true]
    exact ⟨_, rfl⟩
  | false =>
    have hedits : ({ f with loading := false } : Form).isEdit = false := hedit
    simp only [Form.saved, henvelope, hsuccess, hedits, Bool.not_true, Bool.false_eq_true,
      ite_false]
    exact ⟨_, rfl⟩

/-- The hooks find nothing changed but the draft, its key and a flag. -/
theorem settled_eq (f : Form) :
    ∃ inputs key, f.settled = { f with loading := false, inputs, key } := by
  unfold settled
  split
  · exact ⟨f.inputs, f.key, rfl⟩
  · exact ⟨Draft.defaults, .text "", rfl⟩

theorem SameMake.acceptance {g : Form} (h : SameMake f g) : g.acceptance = f.acceptance := by
  rw [Form.acceptance, Form.acceptance, h.isEdit]

/-- The submission is still under way when its hooks are called. -/
theorem Submitting.settled {g : Form} (h : Submitting f g) : Submitting f g.settled := by
  obtain ⟨inputs, key, hsettled⟩ := g.settled_eq
  rw [hsettled]
  exact ⟨h.submitting, h.same.trans ⟨rfl, rfl, rfl, rfl, rfl⟩⟩

/-- An accepted request is told, and then the hooks are called. -/
theorem saved_runs {v : Voucher} {q : Query} {r : Reply} {envelope : Envelope}
    (henvelope : q.envelopeOf r = .ok envelope) (hsuccess : envelope.success = true)
    (hdata : envelope.data = .null ∨ ∃ items, envelope.data = .list items)
    (hkeep : f.isDue envelope.data .confirm = true → CanKeep f back ⟨v, envelope.data⟩) :
    let hooks := f.due envelope.data
    Runs f back (fun s => s.saved v q r) hooks (messagesOf back (tellable hooks))
      (resultOf back hooks) := by
  obtain ⟨deeds, hreports, hcourse⟩ := callRefresh_runs ⟨v, envelope.data⟩ hdata hkeep
  refine ⟨_, hreports.succeeds f.acceptance, fun s hs => ?_⟩
  obtain ⟨entry, hsaved⟩ := saved_of_accepted s (v := v) henvelope hsuccess
  simp only [hsaved, hs.same.acceptance]
  exact (hcourse _ hs.settled).after [.log entry, .success f.acceptance]

/-- A form that is not submitting has no call at a stage of a submission. -/
theorem isSubmission_of_free (settings : Settings) (editingId : Value) (hooks : List Hook)
    (directory : String) (files : FileTree) (events : List (Event Call))
    (hfree : (played settings editingId hooks directory files events).run.state.submitting =
      false) : ∀ w ∈ (played settings editingId hooks directory files events).run.waiting,
      w.2.isSubmission = false := by
  have hcount := Exchange.countP_guarded controller_keeps controller_guards
    (s := create settings editingId hooks directory files) rfl events
  rw [hfree] at hcount
  exact fun w hw => Bool.eq_false_iff.mpr (List.countP_eq_zero.mp hcount w hw)

/-- A submission that is let in sends its query, and once it has the reply it does what its course
says, whatever is done to the form meanwhile. -/
theorem submission_course (settings : Settings) (editingId : Value) (hooks : List Hook)
    (directory : String) (files : FileTree) (before events : List (Event Call)) {v : Voucher}
    {q : Query} {r : Reply} {answers : List Answer} {deeds : List (Deed Result)}
    {x : FormExchange} (hx : x = played settings editingId hooks directory files before)
    (hfree : x.run.state.submitting = false) (hbuild : x.run.state.build = .ok v)
    (hquery : x.run.state.saveQuery v = .ok q)
    (hcourse : ∀ s, Submitting x.run.state s → Course controller Stage.awaits
      (Submitting x.run.state) (s.saved v q r) answers deeds)
    (hevents : events.filterMap (Event.answerTo? x.run.begun) = .reply 0 r :: answers) :
    (played settings editingId hooks directory files
      (before ++ .call .submit :: events)).deedsOf x.run.begun = .sends q :: deeds := by
  have hord : x.Orderly Stage.awaits Call.suits := hx ▸ Exchange.orderly_play controller_keeps _ _
  have hothers : ∀ w ∈ x.run.waiting, w.2.isSubmission = false := by
    subst hx
    exact isSubmission_of_free settings editingId hooks directory files before hfree
  have hnothing : x.deedsOf x.run.begun = [] := hx ▸ Exchange.deedsOf_begun controller_keeps _ _
  have hturn : controller.begin x.run.state .submit = _ :=
    submit_of_saveQuery hfree hbuild hquery
  have hsubmitting : Submitting x.run.state
      { x.run.state with submitting := true, loading := true } := ⟨rfl, rfl, rfl, rfl, rfl, rfl⟩
  have hfits (n : Nat) :
      ∃ p ∈ (Stage.saving v q).awaits n, p.isAnsweredBy n (.reply 0 r) = true :=
    ⟨_, List.mem_singleton_self _, Question.isAnsweredBy_reply n 0 q r⟩
  have hwhole := Course.waits (controller.begin x.run.state .submit) [.query q] (.saving v q)
    (.reply 0 r) _ deeds (by rw [hturn]; rfl) (by rw [hturn]; exact hsubmitting) hfits hcourse
  obtain ⟨hafter, hbegun⟩ := hord.after_begin (I := Submitting x.run.state) controller_keeps hothers
    .submit fun _ => hturn ▸ hsubmitting
  have hdeeds := Exchange.deedsOf_course controller_keeps (controller_tolerates x.run.state) hwhole
    hafter hbegun hevents
  rw [played, Exchange.play_append, ← played, ← hx]
  show ((x.step controller (.call .submit)).play controller events).deedsOf _ = _
  rw [hdeeds, hnothing, hturn]
  rfl

/-- A submission whose request is accepted calls every hook that is due, tells the faults of all but
the question whether to keep codes, and gives a fault of that. -/
theorem reports_of_accepted (settings : Settings) (editingId : Value) (hooks : List Hook)
    (directory : String) (files : FileTree) (before events : List (Event Call)) {v : Voucher}
    {q : Query} {r : Reply} {envelope : Envelope} {back : Hook → Except Fault Value}
    {x : FormExchange} (hx : x = played settings editingId hooks directory files before)
    (hfree : x.run.state.submitting = false) (hbuild : x.run.state.build = .ok v)
    (hquery : x.run.state.saveQuery v = .ok q) (henvelope : q.envelopeOf r = .ok envelope)
    (hsuccess : envelope.success = true)
    (hdata : envelope.data = .null ∨ ∃ items, envelope.data = .list items)
    (hkeep : x.run.state.isDue envelope.data .confirm = true →
      CanKeep x.run.state back ⟨v, envelope.data⟩)
    (hevents : events.filterMap (Event.answerTo? x.run.begun) =
      .reply 0 r :: (x.run.state.due envelope.data).map (endOf back)) :
    let due := x.run.state.due envelope.data
    Reports due (messagesOf back (tellable due)) (resultOf back due)
      ((played settings editingId hooks directory files
        (before ++ .call .submit :: events)).deedsOf x.run.begun) := by
  intro due
  obtain ⟨deeds, hreports, hcourse⟩ := saved_runs (f := x.run.state) (v := v) henvelope hsuccess
    hdata hkeep
  rw [submission_course settings editingId hooks directory files before events hx hfree hbuild
    hquery hcourse hevents]
  exact hreports.sends q

/-- A submission whose request is accepted calls every hook that is due, and gives that it was
accepted after telling each fault once, just if the question whether to keep codes raises none. -/
theorem faults_told_iff_question_ends_well (settings : Settings) (editingId : Value)
    (hooks : List Hook) (directory : String) (files : FileTree) (before events : List (Event Call))
    (v : Voucher) (q : Query) (r : Reply) (envelope : Envelope) (back : Hook → Except Fault Value)
    (x : FormExchange) (hx : x = played settings editingId hooks directory files before)
    (hfree : x.run.state.submitting = false) (hbuild : x.run.state.build = .ok v)
    (hquery : x.run.state.saveQuery v = .ok q) (henvelope : q.envelopeOf r = .ok envelope)
    (hsuccess : envelope.success = true)
    (hdata : envelope.data = .null ∨ ∃ items, envelope.data = .list items)
    (hkeep : x.run.state.isDue envelope.data .confirm = true →
      CanKeep x.run.state back ⟨v, envelope.data⟩)
    (hevents : events.filterMap (Event.answerTo? x.run.begun) =
      .reply 0 r :: (x.run.state.due envelope.data).map (endOf back)) :
    let due := x.run.state.due envelope.data
    let deeds := (played settings editingId hooks directory files
      (before ++ .call .submit :: events)).deedsOf x.run.begun
    deeds.filterMap Deed.hook? = due ∧
    (Reports due (messagesOf back due) (.ok (.accepted true)) deeds ↔
      (.confirm ∈ due → ∃ answer, back .confirm = .ok answer)) ∧
    ∀ e, .confirm ∈ due → back .confirm = .error e →
      Reports due (messagesOf back (tellable due)) (.error (.fault e)) deeds := by
  intro due deeds
  have hreports := reports_of_accepted settings editingId hooks directory files before events hx
    hfree hbuild hquery henvelope hsuccess hdata hkeep hevents
  refine ⟨hreports.called, ⟨fun hgood hdue => ?_, fun hwell => ?_⟩, fun e hdue hback => ?_⟩
  · cases hback : back .confirm with
    | ok answer => exact ⟨answer, rfl⟩
    | error e =>
      have hsame := hreports.given.symm.trans hgood.given
      rw [resultOf_of_error hdue hback] at hsame
      cases hsame
  · rw [← messagesOf_tellable hwell, ← resultOf_of_ok hwell]
    exact hreports
  · rw [← resultOf_of_error hdue hback]
    exact hreports

/-- What a server says that has made one code. -/
def codeText : List UInt8 :=
  "\x7b\"success\": true, \"message\": \"\", \"data\": [\"code-1\"]\x7d".toUTF8.toList

/-- It carries the code. -/
theorem envelopeIn?_codeText :
    Query.envelopeIn? codeText = some ⟨true, "", .list [.text "code-1"]⟩ := by
  refine Query.envelopeIn?_toUTF8 (v := .record [("success", .bool true), ("message", .text ""),
    ("data", .list [.text "code-1"])]) (by decide) ?_ rfl
  simp only [Json.ofText?, String.reduceToList]
  rfl

/-- The reply to any query with which that is said carries the code. -/
theorem envelopeOf_codeText (q : Query) :
    q.envelopeOf (.answered 200 codeText) = .ok ⟨true, "", .list [.text "code-1"]⟩ := by
  simp [Query.envelopeOf, envelopeIn?_codeText]

/-- The hooks end as they do when only the refresh fails and the operator keeps nothing. -/
def refreshFails (fault : Fault) : Hook → Except Fault Value
  | .refresh => .error fault
  | .close => .ok .null
  | .confirm => .ok (.bool false)

/-- The fault of the refresh hook is told though the draft is edited meanwhile, and then the
operator does not want to keep the code. -/
theorem fault_of_refresh_told :
    let fault : Fault := .told .transport "reload failed" none none
    let before : List (Event Call) := [.call (.setField "name" (.text "spring"))]
    let events : List (Event Call) :=
      [.answer 1 (.reply 0 (.answered 200 codeText)), .call (.setField "name" (.text "next")),
        .answer 1 (.ended (.error (.fault fault))), .answer 1 (.ended (.ok .null)),
        .answer 1 (.ended (.ok (.bool false)))]
    Reports [.refresh, .close, .confirm] ["reload failed"] (.ok (.accepted true))
      ((played {} .null [.confirm, .close, .refresh] "" {}
        (before ++ .call .submit :: events)).deedsOf 1) := by
  intro fault before events
  let v : Voucher := { name := "spring", key := some "" }
  have hkeep : CanKeep (played {} .null [.confirm, .close, .refresh] "" {} before).run.state
      (refreshFails fault) ⟨v, .list [.text "code-1"]⟩ := by
    intro items answer hitems hback htruthy
    cases hback
    cases htruthy
  exact (faults_told_iff_question_ends_well {} .null [.confirm, .close, .refresh] "" {} before
    events v _ (.answered 200 codeText) _ (refreshFails fault) _ rfl rfl rfl rfl
    (envelopeOf_codeText _) rfl (Or.inr ⟨_, rfl⟩) (fun _ => hkeep) rfl).2.1.mpr fun _ => ⟨_, rfl⟩

/-- A fault of the question whether to keep the code is given back, and nobody is told. -/
theorem fault_of_question_not_told :
    let fault : Fault := .told .transport "Request failed: dialog gone" none none
    let before : List (Event Call) := [.call (.setField "name" (.text "spring"))]
    let events : List (Event Call) :=
      [.answer 1 (.reply 0 (.answered 200 codeText)), .answer 1 (.ended (.error (.fault fault)))]
    ¬ Reports [.confirm] ["Request failed: dialog gone"] (.ok (.accepted true))
      ((played {} .null [.confirm] "" {} (before ++ .call .submit :: events)).deedsOf 1) := by
  intro fault before events hgood
  let v : Voucher := { name := "spring", key := some "" }
  have hkeep : CanKeep (played {} .null [.confirm] "" {} before).run.state (fun _ => .error fault)
      ⟨v, .list [.text "code-1"]⟩ := by
    intro items answer hitems hback htruthy
    cases hback
  have hreports := reports_of_accepted {} .null [.confirm] "" {} before events (v := v) rfl rfl rfl
    rfl (envelopeOf_codeText _) rfl (Or.inr ⟨_, rfl⟩) (fun _ => hkeep) rfl
  have hsame := hreports.given.symm.trans hgood.given
  cases hsame

end VoucherDesk.Form
