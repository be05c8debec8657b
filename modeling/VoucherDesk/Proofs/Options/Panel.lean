import VoucherDesk.Options.Panel
import VoucherDesk.Proofs.Options.Batch
import VoucherDesk.Proofs.Value.Moves

/-!
# Turns of the panel

Everything that a turn of the panel can do, said once. A call waits for the option list or for
the replies of its batch. What the panel shows changes only by new options that get to it and
can be read, which fill both of its snapshots, and by edits, which change the edited one.
-/

namespace VoucherDesk

open Dialogue

/-- Whether a watcher ends a round with a failure. -/
def Watcher.fails : Watcher → Bool
  | .panel => false
  | .other _ e => e.isSome

namespace Panel

/-- The settings in options, if those that the panel owns can be read. -/
def readOwned (options : Fields) : Option FilterSettings :=
  (FilterSettings.ofFields (owned options)).toOption

/-- What is read of options depends only on what is found in them. -/
theorem readOwned_congr {options others : Fields} (h : ∀ key, options.get? key = others.get? key) :
    readOwned options = readOwned others := by
  unfold readOwned owned
  simp only [h]

/-- What options that get to the panel fill in: the settings in them, if they can be read. -/
def fillOf (options : Fields) : List Fields.Move :=
  match readOwned options with
  | some s => [.fill s.toOptions]
  | none => []

/-- Whether new options of the store get to the panel: it watches, and nobody before it fails. -/
def hears (p : Panel) : Bool :=
  (p.store.watchers.takeWhile fun w => !w.fails).any Watcher.isPanel

/-- What new options of the store bring to the panel. -/
def heard (p : Panel) (options : Fields) : List Fields.Move :=
  if p.hears then fillOf options else []

/-- What the reply to an option list brings to the panel. -/
def heardIn (p : Panel) (r : Reply) : List Fields.Move :=
  match Query.optionsOf r with
  | .ok options => p.heard options
  | .error _ => []

/-- What the first turn of a call brings to the panel. -/
def Call.brings (p : Panel) : Call → List Fields.Move
  | .sync options => fillOf options
  | .replace options => p.heard options
  | .setField key value =>
    if FilterSettings.optionKeys.contains key then [.edit key value] else []
  | _ => []

/-- What a later turn of a call brings to the panel. -/
def Stage.brings (p : Panel) : Stage → Answer → List Fields.Move
  | .loading, .reply _ r => p.heardIn r
  | .reloading, .reply _ r => p.heardIn r
  | _, _ => []

/-- A panel shows what another one shows after moves: the loaded options are filled in, the edited
ones are filled in and edited. -/
structure Follows (p : Panel) (moves : List Fields.Move) (q : Panel) : Prop where
  loaded : q.loaded = Fields.lastFill p.loaded moves
  inputs : q.inputs = moves.foldl Fields.Move.apply p.inputs

namespace Follows

variable {p q r : Panel} {moves more : List Fields.Move}

/-- Without moves a panel shows what it showed. -/
theorem nothing (loaded : q.loaded = p.loaded) (inputs : q.inputs = p.inputs) :
    p.Follows [] q := ⟨loaded, inputs⟩

/-- Moves one after the other. -/
theorem append (h : p.Follows moves q) (h' : q.Follows more r) : p.Follows (moves ++ more) r := by
  refine ⟨?_, ?_⟩
  · rw [h'.loaded, h.loaded, Fields.lastFill_append]
  · rw [h'.inputs, h.inputs, List.foldl_append]

end Follows

/-- What options fill in has the names of the options that the panel owns. -/
theorem fillOf_keeps (options : Fields) :
    ∀ m ∈ fillOf options, m.Keeps FilterSettings.optionKeys := by
  intro m hm
  unfold fillOf at hm
  split at hm
  · obtain rfl := List.mem_singleton.mp hm
    rfl
  · cases hm

@[inherit_doc fillOf_keeps]
theorem heard_keeps (p : Panel) (options : Fields) :
    ∀ m ∈ p.heard options, m.Keeps FilterSettings.optionKeys := by
  intro m hm
  unfold heard at hm
  split at hm
  · exact fillOf_keeps options m hm
  · cases hm

@[inherit_doc fillOf_keeps]
theorem heardIn_keeps (p : Panel) (r : Reply) :
    ∀ m ∈ p.heardIn r, m.Keeps FilterSettings.optionKeys := by
  intro m hm
  unfold heardIn at hm
  split at hm
  · exact heard_keeps p _ m hm
  · cases hm

/-- What a first turn brings to the panel leaves the names of its options in place. -/
theorem Call.brings_keeps (p : Panel) (call : Call) :
    ∀ m ∈ call.brings p, m.Keeps FilterSettings.optionKeys := by
  intro m hm
  cases call with
  | sync options => exact fillOf_keeps options m hm
  | replace options => exact heard_keeps p options m hm
  | setField key value =>
    simp only [Call.brings] at hm
    split at hm
    · next howned =>
      obtain rfl := List.mem_singleton.mp hm
      exact List.contains_iff_mem.mp howned
    · cases hm
  | _ => cases hm

/-- Options that can be read fill both snapshots. -/
theorem sync_of_read {options : Fields} {s : FilterSettings} (h : readOwned options = some s)
    (p : Panel) : (p.sync options).1 = { p with inputs := s.toOptions, loaded := s.toOptions } := by
  unfold sync
  unfold readOwned at h
  cases hread : FilterSettings.ofFields (owned options) with
  | error problems => simp [hread, Except.toOption] at h
  | ok t =>
    obtain rfl : t = s := by simpa [hread, Except.toOption] using h
    rfl

/-- Options that cannot be read change nothing. -/
theorem sync_of_unread {options : Fields} (h : readOwned options = none) (p : Panel) :
    (p.sync options).1 = p := by
  unfold sync
  unfold readOwned at h
  cases hread : FilterSettings.ofFields (owned options) with
  | error problems => rfl
  | ok s => simp [hread, Except.toOption] at h

/-- Taking the same options once more changes nothing. -/
theorem sync_sync (p : Panel) (options : Fields) :
    ((p.sync options).1.sync options).1 = (p.sync options).1 := by
  cases hread : readOwned options with
  | none => rw [sync_of_unread hread, sync_of_unread hread]
  | some s => rw [sync_of_read hread, sync_of_read hread]

/-- The store is not touched by what the panel takes from it. -/
theorem sync_store (p : Panel) (options : Fields) : (p.sync options).1.store = p.store := by
  cases hread : readOwned options with
  | none => rw [sync_of_unread hread]
  | some s => rw [sync_of_read hread]

/-- Options given to the panel fill it if they can be read. -/
theorem sync_follows (p : Panel) (options : Fields) :
    p.Follows (fillOf options) (p.sync options).1 := by
  cases hread : readOwned options with
  | none =>
    rw [sync_of_unread hread]
    simpa only [fillOf, hread] using Follows.nothing rfl rfl
  | some s =>
    rw [sync_of_read hread]
    simpa only [fillOf, hread] using (⟨rfl, rfl⟩ : p.Follows [.fill s.toOptions] _)

/-- A round of watchers gives the options of the store to the panel if it is among those that are
told. -/
theorem tellAll_panel (p : Panel) (watchers : List Watcher) :
    (p.tellAll watchers).panel =
      if (watchers.takeWhile fun w => !w.fails).any Watcher.isPanel
      then (p.sync p.store.options).1 else p := by
  induction watchers generalizing p with
  | nil => rfl
  | cons w rest ih =>
    cases w with
    | panel =>
      simp only [tellAll, tell, ih, sync_store, sync_sync, ite_self]
      rfl
    | other n fails =>
      cases fails with
      | some e => rfl
      | none =>
        simp only [tellAll, tell, ih]
        rfl

/-- New options of the store reach the panel if it hears of them. -/
theorem replace_follows (p : Panel) (options : Fields) :
    p.Follows (p.heard options) (p.replace options).panel := by
  have hpanel : (p.replace options).panel =
      if p.hears then ({ p with store := { p.store with options } }.sync options).1
      else { p with store := { p.store with options } } := tellAll_panel _ _
  rw [hpanel, heard]
  cases p.hears with
  | true =>
    obtain ⟨hloaded, hinputs⟩ := sync_follows { p with store := { p.store with options } } options
    exact ⟨hloaded, hinputs⟩
  | false => exact .nothing rfl rfl

/-- The options of a reply reach the panel if it hears of them. -/
theorem take_follows (p : Panel) (r : Reply) : p.Follows (p.heardIn r) (p.take r).panel := by
  cases hoptions : Query.optionsOf r with
  | error e =>
    simp only [take, heardIn, hoptions]
    exact .nothing rfl rfl
  | ok options =>
    simp only [take, heardIn, hoptions]
    exact replace_follows p options

/-- A round of watchers leaves the store alone. -/
theorem tellAll_store (p : Panel) (watchers : List Watcher) :
    (p.tellAll watchers).panel.store = p.store := by
  rw [tellAll_panel]
  split
  · exact sync_store p p.store.options
  · rfl

/-- New options of the store change nobody who watches it. -/
theorem replace_watchers (p : Panel) (options : Fields) :
    (p.replace options).panel.store.watchers = p.store.watchers := by
  rw [replace, tellAll_store]

/-- The options of a reply change nobody who watches the store. -/
theorem take_watchers (p : Panel) (r : Reply) :
    (p.take r).panel.store.watchers = p.store.watchers := by
  cases hoptions : Query.optionsOf r with
  | error e => simp only [take, hoptions]
  | ok options =>
    simp only [take, hoptions]
    exact replace_watchers p options

/-- A round of watchers none of which fails ends well. -/
theorem tellAll_result (p : Panel) {watchers : List Watcher}
    (h : ∀ w ∈ watchers, w.fails = false) : (p.tellAll watchers).result = .ok () := by
  induction watchers generalizing p with
  | nil => rfl
  | cons w rest ih =>
    obtain ⟨hw, hrest⟩ := List.forall_mem_cons.mp h
    cases w with
    | panel =>
      simp only [tellAll, tell]
      exact ih _ hrest
    | other n fails =>
      cases fails with
      | some e => cases hw
      | none =>
        simp only [tellAll, tell]
        exact ih p hrest

/-- A panel that hears of the options of its store takes those of a reply if they can be read, and
the round ends well if no watcher fails. -/
theorem take_of_options {p : Panel} (hhears : p.hears = true)
    (hquiet : ∀ w ∈ p.store.watchers, w.fails = false) {r : Reply} {options : Fields}
    (h : Query.optionsOf r = .ok options) :
    (p.take r).result = .ok () ∧
      (p.take r).panel = ({ p with store := { p.store with options } }.sync options).1 := by
  simp only [take, h, replace]
  exact ⟨tellAll_result _ hquiet, (tellAll_panel _ _).trans (if_pos hhears)⟩

/-- A panel that alone watches its store hears of its options, and no watcher fails. -/
theorem hears_of_watchers {p : Panel} (h : p.store.watchers = [.panel]) :
    p.hears = true ∧ ∀ w ∈ p.store.watchers, w.fails = false := by
  rw [hears, h]
  exact ⟨rfl, fun w hw => List.mem_singleton.mp hw ▸ rfl⟩

/-- Whether a call is a submission. -/
def Call.isSubmit : Call → Bool
  | .submit => true
  | _ => false

/-- Whether a stage is one of a submission. -/
def Stage.isSubmission : Stage → Bool
  | .loading => false
  | _ => true

/-- A call is at a stage of a submission just when it is one. -/
def Call.suits (call : Call) (stage : Stage) : Prop := stage.isSubmission = call.isSubmit

/-- The open questions of a call at a stage. -/
def Stage.awaits (number : Nat) : Stage → List Question
  | .loading => questions number [.query .listOptions]
  | .collecting b => b.openQuestions number
  | .settling _ => questions number [.pause]
  | .reloading => questions number [.query .listOptions]

/-- The ways in which a call of the panel begins. -/
inductive Begins (p : Panel) (call : Call) (t : PanelTurn) : Prop where
  /-- The option list is asked for. -/
  | loads (load : call = .load) (turn : t = .waitFor p (.query .listOptions) .loading)
  /-- The batch of the changed options is sent. -/
  | sends (submits : call = .submit) (free : p.loading = false) (items : List OptionItem)
      (changed : Changes.between p.inputs p.loaded ≠ [])
      (found : Batch.itemsOf p.inputs
        ((Changes.between p.inputs p.loaded).map fun c => .text c.name) = .ok items)
      (turn : t = { state := { p with loading := true },
                    next := .waits (Batch.ofItems items).asks (.collecting (Batch.ofItems items)) })
  /-- A submission finds nothing changed, or is turned away. -/
  | declines (submits : call = .submit) (r : Except Failure Result) (next : t.next = .ends r)
      (state : t.state = p)
  /-- Any other call ends at once. -/
  | ends (other : call.isSubmit = false) (r : Except Failure Result) (next : t.next = .ends r)
      (follows : p.Follows (call.brings p) t.state)

/-- A submission finds nothing changed, is turned away, or sends its batch. -/
theorem submit_begins (p : Panel) : Begins p .submit p.submit := by
  unfold submit
  cases hchanges : Changes.between p.inputs p.loaded with
  | nil => exact .declines rfl _ rfl rfl
  | cons first rest =>
    dsimp only
    unfold Batch.accept
    cases hloading : p.loading with
    | true => exact .declines rfl _ rfl rfl
    | false =>
      cases hitems : Batch.itemsOf p.inputs ((first :: rest).map fun c => .text c.name) with
      | error e => exact .declines rfl _ rfl rfl
      | ok items =>
        have hne : Changes.between p.inputs p.loaded ≠ [] := by simp [hchanges]
        exact .sends rfl hloading items hne (hchanges ▸ hitems) rfl

/-- Every call of the panel begins in one of those ways. -/
theorem begin_begins (p : Panel) (call : Call) : Begins p call (p.begin call) := by
  cases call with
  | load => exact .loads rfl rfl
  | replace options => exact .ends rfl _ rfl (replace_follows p options)
  | sync options => exact .ends rfl _ rfl (sync_follows p options)
  | setField key value =>
    cases howned : FilterSettings.optionKeys.contains key with
    | true =>
      simp only [Panel.begin, Panel.setField, howned, ite_true]
      refine .ends rfl _ rfl ?_
      simp only [Call.brings, howned, ite_true]
      exact ⟨rfl, rfl⟩
    | false =>
      simp only [Panel.begin, Panel.setField, howned, Bool.false_eq_true, ite_false]
      refine .ends rfl _ rfl ?_
      simp only [Call.brings, howned, Bool.false_eq_true, ite_false]
      exact .nothing rfl rfl
  | submit => exact submit_begins p
  | close => exact .ends rfl _ rfl (.nothing rfl rfl)
  | subscribe fails => exact .ends rfl _ rfl (.nothing rfl rfl)
  | unsubscribe n => exact .ends rfl _ rfl (.nothing rfl rfl)
  | assign key value => exact .ends rfl _ rfl (.nothing rfl rfl)

/-- The ways in which a call of the panel goes on from a stage. -/
inductive Resumes (p : Panel) (stage : Stage) (a : Answer) (t : PanelTurn) : Prop where
  /-- The option list is there and the call ends. -/
  | listed (place : Nat) (r : Reply) (lists : stage = .loading ∨ stage = .reloading)
      (reply : a = .reply place r) (ends : ∃ result, t.next = .ends result)
      (follows : p.Follows (p.heardIn r) t.state)
      (watchers : t.state.store.watchers = p.store.watchers)
  /-- A reply is taken and others are missing. -/
  | collects (b : Batch) (place : Nat) (r : Reply) (collecting : stage = .collecting b)
      (reply : a = .reply place r)
      (turn : t = { state := p, next := .waits [] (.collecting (b.put place r)) })
  /-- The last reply is taken. -/
  | completes (b : Batch) (place : Nat) (r : Reply) (collecting : stage = .collecting b)
      (reply : a = .reply place r) (complete : (b.put place r).isComplete = true)
      (turn : t = .waitFor p .pause (.settling (b.put place r)))
  /-- The batch is saved and the option list is asked for again. -/
  | reloads (b : Batch) (settling : stage = .settling b)
      (next : t.next = .waits [.query .listOptions] .reloading) (state : t.state = p)
  /-- The batch is not saved and the submission ends. -/
  | ends (b : Batch) (settling : stage = .settling b) (r : Except Failure Result)
      (next : t.next = .ends r) (state : t.state = { p with loading := false })
  /-- An answer that the stage does not wait for changes nothing. -/
  | ignored (unfit : ∀ n, ∀ q ∈ stage.awaits n, q.isAnsweredBy n a = false)
      (quiet : stage.brings p a = []) (turn : t = { state := p, next := .waits [] stage })

/-- Every later turn of a call of the panel is one of those ways. -/
theorem resume_resumes (p : Panel) (stage : Stage) (a : Answer) :
    Resumes p stage a (p.resume stage a) := by
  cases stage with
  | loading =>
    cases a with
    | reply place r =>
      exact .listed place r (Or.inl rfl) rfl ⟨_, rfl⟩ (take_follows p r) (take_watchers p r)
    | ended r => exact .ignored (fun _ => isAnsweredBy_singleton rfl) rfl rfl
    | line text => exact .ignored (fun _ => isAnsweredBy_singleton rfl) rfl rfl
    | resumed => exact .ignored (fun _ => isAnsweredBy_singleton rfl) rfl rfl
  | collecting b =>
    cases a with
    | reply place r =>
      cases h : (b.put place r).isComplete with
      | true => exact .completes b place r rfl rfl h (Batch.collect_of_complete h)
      | false => exact .collects b place r rfl rfl (Batch.collect_of_incomplete h)
    | ended r => exact .ignored (Batch.isAnsweredBy_of_no_reply (by simp)) rfl rfl
    | line text => exact .ignored (Batch.isAnsweredBy_of_no_reply (by simp)) rfl rfl
    | resumed => exact .ignored (Batch.isAnsweredBy_of_no_reply (by simp)) rfl rfl
  | settling b =>
    cases a with
    | resumed =>
      show Resumes p (.settling b) .resumed (b.settle p.endSubmit p.saved)
      cases hverdict : Batch.verdict b.results with
      | mk effects verdict =>
        cases verdict with
        | some r =>
          rw [Batch.settle_of_some hverdict]
          exact .ends b rfl _ rfl rfl
        | none =>
          rw [Batch.settle_of_none hverdict]
          exact .reloads b rfl rfl rfl
    | reply place r => exact .ignored (fun _ => isAnsweredBy_singleton rfl) rfl rfl
    | ended r => exact .ignored (fun _ => isAnsweredBy_singleton rfl) rfl rfl
    | line text => exact .ignored (fun _ => isAnsweredBy_singleton rfl) rfl rfl
  | reloading =>
    cases a with
    | reply place r =>
      obtain ⟨hloaded, hinputs⟩ := take_follows p r
      exact .listed place r (Or.inr rfl) rfl ⟨_, rfl⟩ ⟨hloaded, hinputs⟩ (take_watchers p r)
    | ended r => exact .ignored (fun _ => isAnsweredBy_singleton rfl) rfl rfl
    | line text => exact .ignored (fun _ => isAnsweredBy_singleton rfl) rfl rfl
    | resumed => exact .ignored (fun _ => isAnsweredBy_singleton rfl) rfl rfl

/-- A first turn brings to the panel what its call brings. -/
theorem begin_follows (p : Panel) (call : Call) :
    p.Follows (call.brings p) (p.begin call).state := by
  cases begin_begins p call with
  | loads load turn =>
    rw [turn, load]
    exact .nothing rfl rfl
  | sends submits free items changed found turn =>
    rw [turn, submits]
    exact .nothing rfl rfl
  | declines submits r next state =>
    rw [state, submits]
    exact .nothing rfl rfl
  | ends other r next follows => exact follows

/-- A later turn brings to the panel what its answer brings. -/
theorem resume_follows (p : Panel) (stage : Stage) (a : Answer) :
    p.Follows (stage.brings p a) (p.resume stage a).state := by
  cases resume_resumes p stage a with
  | listed place r lists reply ends follows watchers =>
    subst reply
    rcases lists with rfl | rfl
    · exact follows
    · exact follows
  | collects b place r collecting reply turn =>
    rw [turn, collecting]
    exact .nothing rfl rfl
  | completes b place r collecting reply complete turn =>
    rw [turn, collecting]
    exact .nothing rfl rfl
  | reloads b settling next state =>
    rw [state, settling]
    exact .nothing rfl rfl
  | ends b settling r next state =>
    rw [state, settling]
    exact .nothing rfl rfl
  | ignored unfit quiet turn =>
    rw [turn, quiet]
    exact .nothing rfl rfl

/-- A call of the panel has just the questions open that its stage awaits, and ends with none. -/
theorem controller_keeps : controller.Keeps Stage.awaits Call.suits where
  begin_waits := by
    intro p call asks stage hnext
    have hturn : (p.begin call).next = .waits asks stage := hnext
    cases begin_begins p call with
    | loads load turn =>
      rw [turn] at hturn
      cases hturn
      exact ⟨load ▸ rfl, fun _ => rfl⟩
    | sends submits free items changed found turn =>
      rw [turn] at hturn
      cases hturn
      exact ⟨submits ▸ rfl, fun n => Batch.openQuestions_ofItems n items⟩
    | declines submits r next state => cases next.symm.trans hturn
    | ends other r next follows => cases next.symm.trans hturn
  resume_waits := by
    intro p call stage n a asks stage' hsuits hans hnext
    have hturn : (p.resume stage a).next = .waits asks stage' := hnext
    cases resume_resumes p stage a with
    | listed place r lists reply ends follows watchers =>
      obtain ⟨result, hends⟩ := ends
      cases hends.symm.trans hturn
    | collects b place r collecting reply turn =>
      rw [turn] at hturn
      cases hturn
      subst collecting reply
      rw [questions_nil, List.append_nil]
      exact ⟨hsuits, Batch.openQuestions_put n b place r⟩
    | completes b place r collecting reply complete turn =>
      rw [turn] at hturn
      cases hturn
      subst collecting reply
      have hnone := Batch.openQuestions_put n b place r
      rw [Batch.openQuestions_of_isComplete n complete] at hnone
      refine ⟨hsuits, ?_⟩
      simp only [Stage.awaits, ← hnone, List.nil_append]
    | reloads b settling next state =>
      cases next.symm.trans hturn
      subst settling
      refine ⟨hsuits, ?_⟩
      simp only [Stage.awaits] at hans ⊢
      rw [(fits_of_singleton hans).2, List.nil_append]
    | ends b settling r next state => cases next.symm.trans hturn
    | ignored unfit quiet turn =>
      obtain ⟨q, hq, hfits⟩ := hans
      exact absurd ((unfit n q hq).symm.trans hfits) Bool.false_ne_true
  resume_ends := by
    intro p call stage n a r _ hans hnext
    have hturn : (p.resume stage a).next = .ends r := hnext
    cases stage with
    | loading => exact (fits_of_singleton hans).2
    | settling b => exact (fits_of_singleton hans).2
    | reloading => exact (fits_of_singleton hans).2
    | collecting b =>
      -- A submission does not end while it collects replies.
      cases resume_resumes p (.collecting b) a with
      | listed place r lists => simp at lists
      | collects b place r collecting reply turn =>
        rw [turn] at hturn
        cases hturn
      | completes b place r collecting reply complete turn =>
        rw [turn] at hturn
        cases hturn
      | reloads b settling => cases settling
      | ends b settling => cases settling
      | ignored unfit quiet turn =>
        rw [turn] at hturn
        cases hturn

/-- Nobody among the watchers of the store is the panel. -/
def IsDetached (p : Panel) : Prop := ∀ w ∈ p.store.watchers, w.isPanel = false

/-- Once the panel is closed it is detached. -/
theorem isDetached_close (p : Panel) : p.close.IsDetached := by
  intro w hw
  simpa using (List.mem_filter.mp hw).2

namespace IsDetached

variable {p : Panel}

/-- New options of the store do not get to a panel that is detached. -/
theorem hears (h : p.IsDetached) : p.hears = false := by
  refine List.any_eq_false.mpr fun w hw => ?_
  rw [h w ((List.takeWhile_sublist _).subset hw)]
  exact Bool.false_ne_true

/-- Whoever watches the store besides, the panel stays detached. -/
theorem of_watchers {q : Panel} (h : p.IsDetached)
    (hwatchers : q.store.watchers = p.store.watchers) : q.IsDetached := by
  unfold IsDetached
  rw [hwatchers]
  exact h

/-- No call attaches a panel again. -/
theorem begin (h : p.IsDetached) (call : Call) : (p.begin call).state.IsDetached := by
  cases call with
  | load => exact h
  | replace options => exact h.of_watchers (replace_watchers p options)
  | sync options => exact h.of_watchers (congrArg OptionStore.watchers (sync_store p options))
  | setField key value =>
    simp only [Panel.begin, Panel.setField]
    split
    · next q hset =>
      split at hset
      · cases hset
        exact h
      · cases hset
    · exact h
  | submit =>
    show p.submit.state.IsDetached
    cases submit_begins p with
    | loads load turn => cases load
    | sends submits free items changed found turn =>
      rw [turn]
      exact h
    | declines submits r next state =>
      rw [state]
      exact h
    | ends other r next follows => cases other
  | close => exact isDetached_close p
  | subscribe fails =>
    intro w hw
    rcases List.mem_append.mp hw with hold | hnew
    · exact h w hold
    · rw [List.mem_singleton.mp hnew]
      rfl
  | unsubscribe n => exact fun w hw => h w (List.mem_filter.mp hw).1
  | assign key value => exact h

/-- No later turn attaches a panel again. -/
theorem resume (h : p.IsDetached) (stage : Stage) (a : Answer) :
    (p.resume stage a).state.IsDetached := by
  cases resume_resumes p stage a with
  | listed place r lists reply ends follows watchers => exact h.of_watchers watchers
  | collects b place r collecting reply turn =>
    rw [turn]
    exact h
  | completes b place r collecting reply complete turn =>
    rw [turn]
    exact h
  | reloads b settling next state =>
    rw [state]
    exact h
  | ends b settling r next state =>
    rw [state]
    exact h
  | ignored unfit quiet turn =>
    rw [turn]
    exact h

end IsDetached

end Panel

end VoucherDesk
