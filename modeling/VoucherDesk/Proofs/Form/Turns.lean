import VoucherDesk.Form.Calls
import VoucherDesk.Proofs.Dialogue.Guard

/-!
# Turns of a form

Everything that a turn of a form can do, said once. A call that waits has just one question
open. After its query is answered a submission either asks a hook and leaves the form as it
is, or ends and lets the next one in; between its turns it is always at a stage of its own.
-/

namespace VoucherDesk.Form

open Dialogue

/-- Whether a call is a submission. -/
def Call.isSubmit : Call → Bool
  | .submit => true
  | _ => false

/-- Whether a stage is one of a submission. -/
def Stage.isSubmission : Stage → Bool
  | .fetching _ => false
  | _ => true

/-- What a call waits for at a stage. -/
def Stage.ask : Stage → Ask
  | .fetching id => .query (.showVoucher id)
  | .saving _ q => .query q
  | .refreshing _ => .hook .refresh []
  | .closing _ => .hook .close []
  | .confirming name codes =>
    .hook .confirm [.list (codes.map .text), .text (Export.fileName name)]

/-- The open question of a call at a stage. -/
def Stage.awaits (number : Nat) (stage : Stage) : List Question := questions number [stage.ask]

/-- A call is at a stage of a submission just when it is one. -/
def Call.suits (call : Call) (stage : Stage) : Prop := stage.isSubmission = call.isSubmit

/-- Two forms that show the same draft of the same voucher, with the same hooks. -/
structure SameDraft (f g : Form) : Prop where
  settings : g.settings = f.settings
  editingId : g.editingId = f.editingId
  hooks : g.hooks = f.hooks
  exportDirectory : g.exportDirectory = f.exportDirectory
  inputs : g.inputs = f.inputs
  key : g.key = f.key
  loading : g.loading = f.loading

/-- How a submission of a form goes on when its query is answered: a hook is asked and the form
stays as it is, or the submission ends and the next one is let in. -/
inductive GoesOn (f : Form) (t : FormTurn) : Prop where
  | asks (h : Hook) (args : List Value) (stage : Stage)
      (next : t.next = .waits [.hook h args] stage) (ask : stage.ask = .hook h args)
      (submission : stage.isSubmission = true) (state : t.state = f)
  | ends (r : Except Failure Result) (next : t.next = .ends r)
      (submitting : t.state.submitting = false) (same : SameDraft f t.state)

namespace GoesOn

variable {f : Form}

/-- Effects before those of a turn do not change how it goes on. -/
theorem after {t : FormTurn} (h : GoesOn f t) (effects : List Effect) :
    GoesOn f (t.after effects) := by
  cases h with
  | asks h args stage next ask submission state =>
    exact .asks h args stage next ask submission state
  | ends r next submitting same => exact .ends r next submitting same

theorem endSubmit (f : Form) (r : Except Failure Bool) : GoesOn f (f.endSubmit r) :=
  .ends (r.map .accepted) rfl rfl ⟨rfl, rfl, rfl, rfl, rfl, rfl, rfl⟩

theorem keepCodes (f : Form) (name : String) (codes : List String) :
    GoesOn f (f.keepCodes name codes) := by
  unfold Form.keepCodes
  split
  · exact endSubmit f _
  · exact (GoesOn.ends _ rfl rfl ⟨rfl, rfl, rfl, rfl, rfl, rfl, rfl⟩ : GoesOn f _).after _

theorem offerCodes (f : Form) (s : Saved) : GoesOn f (f.offerCodes s) := by
  unfold Form.offerCodes
  split
  · exact endSubmit f _
  · split
    · exact endSubmit f _
    · dsimp only
      split
      · exact .asks .confirm _ (.confirming _ _) rfl rfl rfl rfl
      · exact endSubmit f _

theorem callClose (f : Form) (s : Saved) : GoesOn f (f.callClose s) := by
  unfold Form.callClose
  split
  · exact .asks .close [] (.closing s) rfl rfl rfl rfl
  · exact offerCodes f s

theorem callRefresh (f : Form) (s : Saved) : GoesOn f (f.callRefresh s) := by
  unfold Form.callRefresh
  split
  · exact .asks .refresh [] (.refreshing s) rfl rfl rfl rfl
  · exact callClose f s

theorem afterHook {goOn : FormTurn} (h : GoesOn f goOn) (hook : Hook) (r : Except Failure Value) :
    GoesOn f (f.afterHook hook r goOn) := by
  unfold Form.afterHook
  split
  · exact h
  · exact h.after _
  · exact endSubmit f _

theorem afterConfirm (f : Form) (name : String) (codes : List String) (r : Except Failure Value) :
    GoesOn f (f.afterConfirm name codes r) := by
  unfold Form.afterConfirm
  split
  · exact endSubmit f _
  · split
    · exact keepCodes f name codes
    · exact endSubmit f _

end GoesOn

/-- The reply to the query of a submission ends the loading, and an accepted new voucher empties
the draft; then the submission goes on. -/
theorem saved_goesOn (f : Form) (v : Voucher) (q : Query) (r : Reply) :
    GoesOn { f with loading := false } (f.saved v q r) ∨
      GoesOn { f with loading := false }.reset (f.saved v q r) := by
  unfold Form.saved
  dsimp only
  split
  · exact Or.inl ((GoesOn.endSubmit _ _).after _)
  · exact Or.inl (GoesOn.endSubmit _ _)
  · split
    · exact Or.inl ((GoesOn.endSubmit _ _).after _)
    · split
      · exact Or.inl ((GoesOn.callRefresh _ _).after _)
      · exact Or.inr ((GoesOn.callRefresh _ _).after _)

/-- The reply to the query of a load ends the load, and leaves the draft or fills it with a
voucher. -/
theorem fetched_ends (f : Form) (id : Value) (r : Reply) :
    (∃ result, (f.fetched id r).next = .ends result) ∧
      ((f.fetched id r).state = { f with loading := false } ∨
        ∃ v, (f.fetched id r).state = { f with loading := false, inputs := inputsOf v }) := by
  unfold Form.fetched
  dsimp only
  split
  · exact ⟨⟨_, rfl⟩, Or.inl rfl⟩
  · exact ⟨⟨_, rfl⟩, Or.inl rfl⟩
  · split
    · exact ⟨⟨_, rfl⟩, Or.inr ⟨_, rfl⟩⟩
    · exact ⟨⟨_, rfl⟩, Or.inl rfl⟩
    · exact ⟨⟨_, rfl⟩, Or.inl rfl⟩

/-- The ways in which a call of a form goes on from a stage. -/
inductive Resumes (f : Form) (stage : Stage) (a : Answer) (t : FormTurn) : Prop where
  /-- A load ends. -/
  | loaded (id : Value) (fetching : stage = .fetching id) (ends : ∃ r, t.next = .ends r)
      (state : t.state = { f with loading := false } ∨
        ∃ v, t.state = { f with loading := false, inputs := inputsOf v })
  /-- A submission has its reply. -/
  | replied (v : Voucher) (q : Query) (saving : stage = .saving v q)
      (goesOn : GoesOn { f with loading := false } t ∨ GoesOn { f with loading := false }.reset t)
  /-- A hook of a submission has ended. -/
  | hooked (submission : stage.isSubmission = true) (goesOn : GoesOn f t)
  /-- An answer that the stage does not wait for changes nothing. -/
  | ignored (unfit : a.fits 0 stage.ask = false) (next : t.next = .waits [] stage)
      (state : t.state = f)

/-- Every later turn of a call of a form is one of those ways. -/
theorem resume_resumes (f : Form) (stage : Stage) (a : Answer) :
    Resumes f stage a (f.resume stage a) := by
  cases stage with
  | fetching id =>
    cases a with
    | reply place r => exact .loaded id rfl (fetched_ends f id r).1 (fetched_ends f id r).2
    | ended r => exact .ignored rfl rfl rfl
    | line text => exact .ignored rfl rfl rfl
    | resumed => exact .ignored rfl rfl rfl
  | saving v q =>
    cases a with
    | reply place r => exact .replied v q rfl (saved_goesOn f v q r)
    | ended r => exact .ignored rfl rfl rfl
    | line text => exact .ignored rfl rfl rfl
    | resumed => exact .ignored rfl rfl rfl
  | refreshing s =>
    cases a with
    | ended r => exact .hooked rfl ((GoesOn.callClose f s).afterHook .refresh r)
    | reply place r => exact .ignored rfl rfl rfl
    | line text => exact .ignored rfl rfl rfl
    | resumed => exact .ignored rfl rfl rfl
  | closing s =>
    cases a with
    | ended r => exact .hooked rfl ((GoesOn.offerCodes f s).afterHook .close r)
    | reply place r => exact .ignored rfl rfl rfl
    | line text => exact .ignored rfl rfl rfl
    | resumed => exact .ignored rfl rfl rfl
  | confirming name codes =>
    cases a with
    | ended r => exact .hooked rfl (GoesOn.afterConfirm f name codes r)
    | reply place r => exact .ignored rfl rfl rfl
    | line text => exact .ignored rfl rfl rfl
    | resumed => exact .ignored rfl rfl rfl

/-- What a call that sends nothing does to the draft. -/
inductive Edits (f : Form) (call : Call) (g : Form) : Prop where
  | nothing (state : g = f)
  | reset (other : call.isSubmit = false) (state : g = f.reset)
  | field (name : String) (value : Value) (sets : call = .setField name value)
      (state : g = { f with inputs := f.inputs.put name value })
  | key (value : Value) (sets : call = .setKey value) (state : g = f.setKey value)

/-- The ways in which a call of a form begins. -/
inductive Begins (f : Form) (call : Call) (t : FormTurn) : Prop where
  /-- A voucher is fetched. -/
  | fetches (id : Value) (other : call.isSubmit = false)
      (next : t.next = .waits [.query (.showVoucher id)] (.fetching id))
      (state : t.state = { f with loading := true })
  /-- A submission that finds no other one sends its voucher. -/
  | sends (v : Voucher) (q : Query) (submits : call = .submit) (free : f.submitting = false)
      (built : f.build = .ok v) (query : f.saveQuery v = .ok q)
      (next : t.next = .waits [.query q] (.saving v q))
      (state : t.state = { f with submitting := true, loading := true })
  /-- The call ends at once. -/
  | ends (r : Except Failure Result) (next : t.next = .ends r) (edits : Edits f call t.state)

/-- A submission is turned away, finds nothing to send, or sends its voucher. -/
theorem submit_begins (f : Form) : Begins f .submit f.submit := by
  unfold Form.submit
  cases hfree : f.submitting with
  | true => exact .ends _ rfl (.nothing rfl)
  | false =>
    simp only [Bool.false_eq_true, ite_false]
    split
    · split
      · exact .ends _ rfl (.nothing rfl)
      · exact .ends _ rfl (.nothing rfl)
    · exact .ends _ rfl (.nothing rfl)
    · next v hbuild =>
      split
      · exact .ends _ rfl (.nothing rfl)
      · next q hquery => exact .sends v q rfl hfree hbuild hquery rfl rfl

/-- A submission whose draft can be sent is let in, and waits for the reply to its query. -/
theorem submit_of_saveQuery {f : Form} (hfree : f.submitting = false) {v : Voucher} {q : Query}
    (hbuild : f.build = .ok v) (hquery : f.saveQuery v = .ok q) :
    f.submit =
      .waitFor { f with submitting := true, loading := true } (.query q) (.saving v q) := by
  simp only [Form.submit, hfree, hbuild, hquery, Bool.false_eq_true, ite_false]

/-- Every call of a form begins in one of those ways. -/
theorem begin_begins (f : Form) (call : Call) : Begins f call (f.begin call) := by
  cases call with
  | openForm =>
    unfold Form.begin
    dsimp only
    split
    · exact .fetches f.editingId rfl rfl rfl
    · exact .ends _ rfl (.reset rfl rfl)
  | load id => exact .fetches id rfl rfl rfl
  | reset => exact .ends _ rfl (.reset rfl rfl)
  | setField name value =>
    simp only [Form.begin, Form.setField]
    split
    · next g hset =>
      split at hset
      · cases hset
        exact .ends _ rfl (.field name value rfl rfl)
      · cases hset
    · exact .ends _ rfl (.nothing rfl)
  | setKey value => exact .ends _ rfl (.key value rfl rfl)
  | build => exact .ends _ rfl (.nothing rfl)
  | submit => exact submit_begins f

/-- A submission that goes on to wait has asked what its stage awaits. -/
theorem GoesOn.waits {f : Form} {t : FormTurn} {asks : List Ask} {stage : Stage}
    (h : GoesOn f t) (hnext : t.next = .waits asks stage) :
    asks = [stage.ask] ∧ stage.isSubmission = true := by
  cases h with
  | asks hook args stage' next ask submission state =>
    cases next.symm.trans hnext
    exact ⟨by rw [ask], submission⟩
  | ends r next submitting same => cases next.symm.trans hnext

/-- A call of a form has one question open at a time, that of its stage. -/
theorem controller_keeps : controller.Keeps Stage.awaits Call.suits where
  begin_waits := by
    intro f call asks stage hnext
    cases begin_begins f call with
    | fetches id other next state =>
      cases next.symm.trans hnext
      exact ⟨other.symm, fun _ => rfl⟩
    | sends v q submits free built query next state =>
      cases next.symm.trans hnext
      exact ⟨submits ▸ rfl, fun _ => rfl⟩
    | ends r next edits => cases next.symm.trans hnext
  resume_waits := by
    intro f call stage n a asks stage' hsuits hans hnext
    obtain ⟨hfits, hnone⟩ := fits_of_singleton hans
    rw [Stage.awaits, Stage.awaits, hnone, List.nil_append]
    have hgoes : stage.isSubmission = true → (∃ g, GoesOn g (f.resume stage a)) →
        call.suits stage' ∧ stage'.awaits n = questions n asks := by
      rintro hsub ⟨g, hg⟩
      obtain ⟨rfl, hsub'⟩ := hg.waits hnext
      exact ⟨hsub'.trans (hsub.symm.trans hsuits), rfl⟩
    cases resume_resumes f stage a with
    | loaded id fetching ends state =>
      obtain ⟨r, hr⟩ := ends
      cases hr.symm.trans hnext
    | replied v q saving goesOn =>
      subst saving
      exact hgoes rfl (goesOn.elim (fun h => ⟨_, h⟩) fun h => ⟨_, h⟩)
    | hooked submission goesOn => exact hgoes submission ⟨f, goesOn⟩
    | ignored unfit next state => exact absurd (unfit.symm.trans hfits) Bool.false_ne_true
  resume_ends := fun _ hans _ => (fits_of_singleton hans).2

/-- The form is submitting just while a call is at a stage of a submission. -/
theorem controller_guards : controller.Guards Form.submitting Stage.isSubmission where
  begin_free := by
    intro f call hat
    cases begin_begins f call with
    | fetches id other next state => simp [controller, Turn.isAt, next, Stage.isSubmission] at hat
    | sends v q submits free built query next state => exact free
    | ends r next edits => simp [controller, Turn.isAt, next] at hat
  begin_flag := by
    intro f call
    show (f.begin call).state.submitting = (f.submitting || (f.begin call).isAt _)
    cases begin_begins f call with
    | fetches id other next state => simp [Turn.isAt, next, state, Stage.isSubmission]
    | sends v q submits free built query next state =>
      simp [Turn.isAt, next, state, Stage.isSubmission]
    | ends r next edits =>
      have hsame : (f.begin call).state.submitting = f.submitting := by
        cases edits with
        | nothing state => rw [state]
        | reset other state => rw [state]; rfl
        | field name value sets state => rw [state]
        | key value sets state => rw [state]; rfl
      simp [Turn.isAt, next, hsame]
  resume_held := by
    intro f stage a hstage hflag
    show (f.resume stage a).state.submitting = (f.resume stage a).isAt _
    have hgoes : ∀ g : Form, g.submitting = true → GoesOn g (f.resume stage a) →
        (f.resume stage a).state.submitting = (f.resume stage a).isAt Stage.isSubmission := by
      intro g hg h
      cases h with
      | asks hook args stage' next ask submission state =>
        simp [Turn.isAt, next, state, submission, hg]
      | ends r next submitting same => simp [Turn.isAt, next, submitting]
    cases resume_resumes f stage a with
    | loaded id fetching ends state => simp [fetching, Stage.isSubmission] at hstage
    | replied v q saving goesOn =>
      rcases goesOn with h | h
      · exact hgoes { f with loading := false } hflag h
      · exact hgoes (Form.reset { f with loading := false }) hflag h
    | hooked submission goesOn => exact hgoes f hflag goesOn
    | ignored unfit next state => simp [Turn.isAt, next, state, hstage, hflag]
  resume_free := by
    intro f stage a hstage
    show (f.resume stage a).state.submitting = f.submitting ∧ (f.resume stage a).isAt _ = false
    cases resume_resumes f stage a with
    | loaded id fetching ends state =>
      obtain ⟨r, hr⟩ := ends
      rcases state with hstate | ⟨v, hstate⟩
      · simp [Turn.isAt, hr, hstate]
      · simp [Turn.isAt, hr, hstate]
    | replied v q saving goesOn => simp [saving, Stage.isSubmission] at hstage
    | hooked submission goesOn => simp [submission] at hstage
    | ignored unfit next state => simp [Turn.isAt, next, state, hstage]

end VoucherDesk.Form
