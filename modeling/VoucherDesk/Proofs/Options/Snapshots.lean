import VoucherDesk.Proofs.Dialogue.Record
import VoucherDesk.Proofs.Options.Panel

/-!
# What the panel shows

However maps of options, edits, submissions and the answers to them are interleaved, the panel
shows the last options that got to it and could be read, and the edits made since. After it
is closed no new options of the store get to it.
-/

namespace VoucherDesk.Panel

open Dialogue

/-- A panel with its store, its calls and all that has happened. -/
abbrev PanelExchange := Exchange Panel Call Stage Result

/-- The panel that joins a store: it watches after everybody else, and is told the options at
once. -/
def join (store : OptionStore) : Panel :=
  (({ store := { store with watchers := store.watchers ++ [.panel] } } : Panel).sync
    store.options).1

/-- The exchanges of a panel from the moment it joins a store. -/
abbrev played (store : OptionStore) (events : List (Event Call)) : PanelExchange :=
  (Exchange.start (join store)).play controller events

/-- Both sets of options that the panel keeps: as loaded and as edited. -/
def snapshots (p : Panel) : Fields × Fields := (p.loaded, p.inputs)

/-- Whether a question asks for the option list. -/
def asksList (q : Question) : Bool :=
  match q.ask with
  | .query q => q.method == .get && q.path == "/api/option/"
  | _ => false

/-- What an event brings to the panel: options that are given to it or to its store, options in the
reply to somebody who asked for the list, or an edit. -/
def brings (x : PanelExchange) : Event Call → List Fields.Move
  | .call call => call.brings x.run.state
  | .answer n (.reply place r) =>
    if x.pending.any fun q => q.isAnsweredBy n (.reply place r) && asksList q
    then x.run.state.heardIn r else []
  | .answer .. => []

/-- What is brought to a panel that joins a store, the options of the store first. -/
def movesOf (store : OptionStore) (events : List (Event Call)) : List Fields.Move :=
  fillOf store.options ++ (Exchange.start (join store)).gather controller brings events

/-- The options that an event delivers, to the panel itself or through its store. -/
def delivers : Event Call → Option Fields
  | .call (.sync options) => some options
  | .call (.replace options) => some options
  | .answer _ (.reply _ r) => (Query.optionsOf r).toOption
  | _ => none

/-- Whether an event goes to the panel itself, past the store. -/
def isDirect : Event Call → Bool
  | .call (.sync _) => true
  | .call (.setField ..) => true
  | _ => false

variable {x : PanelExchange}

/-- Whether a stage waits for the option list. -/
def Stage.isListing : Stage → Bool
  | .loading => true
  | .reloading => true
  | _ => false

/-- An answer is one to an open question for the option list just when its call waits for it. -/
theorem any_asksList (h : x.Orderly Stage.awaits Call.suits) {n : Nat} {a : Answer} {stage : Stage}
    (hw : (n, stage) ∈ x.run.waiting) {q : Question} (haw : q ∈ stage.awaits n)
    (hans : q.isAnsweredBy n a = true) :
    (x.pending.any fun p => p.isAnsweredBy n a && asksList p) = stage.isListing := by
  have hmem : ∀ p : Question, p ∈ x.pending ∧ p.number = n ↔ p ∈ stage.awaits n := by
    intro p
    rw [← h.pendingOf _ hw, Exchange.pendingOf, List.mem_filter, beq_iff_eq]
  have hlist : (x.pending.any fun p => p.isAnsweredBy n a && asksList p) = true ↔
      ∃ p ∈ stage.awaits n, p.isAnsweredBy n a = true ∧ asksList p = true := by
    simp only [List.any_eq_true, Bool.and_eq_true]
    constructor
    · rintro ⟨p, hp, hpa, hpl⟩
      exact ⟨p, (hmem p).mp ⟨hp, Question.number_of_isAnsweredBy hpa⟩, hpa, hpl⟩
    · rintro ⟨p, hp, hpa, hpl⟩
      exact ⟨p, ((hmem p).mpr hp).1, hpa, hpl⟩
  cases stage with
  | loading =>
    obtain rfl := List.mem_singleton.mp haw
    exact hlist.mpr ⟨_, haw, hans, rfl⟩
  | reloading =>
    obtain rfl := List.mem_singleton.mp haw
    exact hlist.mpr ⟨_, haw, hans, rfl⟩
  | settling b =>
    refine Bool.eq_false_iff.mpr fun hany => ?_
    obtain ⟨p, hp, -, hpl⟩ := hlist.mp hany
    obtain rfl := List.mem_singleton.mp hp
    cases hpl
  | collecting b =>
    refine Bool.eq_false_iff.mpr fun hany => ?_
    obtain ⟨p, hp, -, hpl⟩ := hlist.mp hany
    obtain ⟨item, -, hask⟩ := Batch.ask_of_mem_questions (List.mem_filter.mp hp).1
    simp [asksList, hask, Query.storeOption] at hpl

/-- An answer brings to the panel what it brings at the stage of its call. -/
theorem brings_answer (h : x.Orderly Stage.awaits Call.suits) {n : Nat} {a : Answer} {stage : Stage}
    (hw : (n, stage) ∈ x.run.waiting) {q : Question} (haw : q ∈ stage.awaits n)
    (hans : q.isAnsweredBy n a = true) : brings x (.answer n a) = stage.brings x.run.state a := by
  cases a with
  | reply place r =>
    rw [brings, any_asksList h hw haw hans]
    cases stage <;> rfl
  | _ => cases stage <;> rfl

/-- One event makes the panel show what it brings. -/
theorem step_follows (h : x.Orderly Stage.awaits Call.suits) (e : Event Call) :
    x.run.state.Follows (brings x e) (x.step controller e).run.state := by
  cases e with
  | call call =>
    rw [Exchange.step_call]
    exact begin_follows x.run.state call
  | answer n a =>
    by_cases hopen : ∃ q ∈ x.pending, q.isAnsweredBy n a = true
    · obtain ⟨q, hq, hans⟩ := hopen
      obtain rfl : q.number = n := Question.number_of_isAnsweredBy hans
      obtain ⟨stage, hw, haw⟩ := h.exists_stage hq
      rw [brings_answer h hw haw hans, Exchange.step_answer hq hans (h.lookup hw)]
      exact resume_follows x.run.state stage a
    · have hnothing : brings x (.answer n a) = [] := by
        cases a with
        | reply place r =>
          refine if_neg fun hany => ?_
          obtain ⟨q, hq, hboth⟩ := List.any_eq_true.mp hany
          exact hopen ⟨q, hq, (Bool.and_eq_true_iff.mp hboth).1⟩
        | _ => rfl
      rw [hnothing, Exchange.step_unasked fun q hq hans => hopen ⟨q, hq, hans⟩]
      exact .nothing rfl rfl

/-- Events in order make the panel show what they bring. -/
theorem play_follows (h : x.Orderly Stage.awaits Call.suits) (events : List (Event Call)) :
    x.run.state.Follows (x.gather controller brings events)
      (x.play controller events).run.state := by
  induction events generalizing x with
  | nil => exact .nothing rfl rfl
  | cons e rest ih => exact (step_follows h e).append (ih (h.step controller_keeps e))

/-- What an event brings to the panel leaves the names of its options in place. -/
theorem brings_keeps (x : PanelExchange) (e : Event Call) :
    ∀ m ∈ brings x e, m.Keeps FilterSettings.optionKeys := by
  intro m hm
  unfold brings at hm
  split at hm
  · exact Call.brings_keeps _ _ m hm
  · split at hm
    · exact heardIn_keeps _ _ m hm
    · cases hm
  · cases hm

/-- What events in order bring to the panel leaves the names of its options in place. -/
theorem movesOf_keeps (store : OptionStore) (events : List (Event Call)) :
    ∀ m ∈ movesOf store events, m.Keeps FilterSettings.optionKeys := by
  intro m hm
  rcases List.mem_append.mp hm with hfirst | hlater
  · exact fillOf_keeps store.options m hfirst
  · exact Exchange.forall_mem_gather brings_keeps events m hlater

/-- A panel that joins a store shows the options of the store, if they can be read. -/
theorem join_follows (store : OptionStore) :
    ({} : Panel).Follows (fillOf store.options) (join store) := by
  obtain ⟨hloaded, hinputs⟩ := sync_follows
    { store := { store with watchers := store.watchers ++ [.panel] } } store.options
  exact ⟨hloaded, hinputs⟩

/-- After all events the panel shows what was brought to it. -/
theorem played_follows (store : OptionStore) (events : List (Event Call)) :
    ({} : Panel).Follows (movesOf store events) (played store events).run.state :=
  (join_follows store).append
    (play_follows (Exchange.orderly_start (join store)) events)

/-- Where nothing is brought to the panel it shows what it showed. -/
theorem snapshots_step (h : x.Orderly Stage.awaits Call.suits) {e : Event Call}
    (hnothing : brings x e = []) :
    (x.step controller e).run.state.snapshots = x.run.state.snapshots := by
  have hfollows := step_follows h e
  rw [hnothing] at hfollows
  exact Prod.ext hfollows.loaded hfollows.inputs

/-- Options that cannot be read bring nothing to the panel, whichever way they come. -/
theorem brings_of_unread {e : Event Call} {options : Fields} (hdelivers : delivers e = some options)
    (hunread : readOwned options = none) : brings x e = [] := by
  have hfill : fillOf options = [] := by simp only [fillOf, hunread]
  have hheard (p : Panel) : p.heard options = [] := by rw [heard, hfill, ite_self]
  unfold delivers at hdelivers
  split at hdelivers
  · obtain rfl := Option.some.inj hdelivers
    exact hfill
  · obtain rfl := Option.some.inj hdelivers
    exact hheard x.run.state
  · next n place r =>
    have hread : Query.optionsOf r = .ok options := by
      cases hoptions : Query.optionsOf r with
      | error e => simp [hoptions, Except.toOption] at hdelivers
      | ok fields => simpa [hoptions, Except.toOption] using hdelivers
    have hin : x.run.state.heardIn r = [] := by simp only [heardIn, hread, hheard]
    rw [brings, hin, ite_self]
  · cases hdelivers

/-- An answer brings to the panel only the options in the reply to the one who is answered. -/
theorem of_brings_answer {n : Nat} {a : Answer} (hsome : brings x (.answer n a) ≠ []) :
    ∃ place r options s, a = .reply place r ∧ Query.optionsOf r = .ok options ∧
      readOwned options = some s ∧ brings x (.answer n a) = [.fill s.toOptions] ∧
      ∃ q ∈ x.pending, q.number = n ∧ q.isAnsweredBy n a = true ∧ asksList q = true := by
  cases a with
  | reply place r =>
    by_cases hany : (x.pending.any fun q =>
        q.isAnsweredBy n (.reply place r) && asksList q) = true
    · have hbrings : brings x (.answer n (.reply place r)) = x.run.state.heardIn r := if_pos hany
      obtain ⟨q, hq, hboth⟩ := List.any_eq_true.mp hany
      obtain ⟨hans, hlist⟩ := Bool.and_eq_true_iff.mp hboth
      rw [hbrings] at hsome ⊢
      unfold heardIn at hsome ⊢
      cases hoptions : Query.optionsOf r with
      | error e => simp [hoptions] at hsome
      | ok options =>
        simp only [hoptions, heard] at hsome ⊢
        cases hears : x.run.state.hears with
        | false => simp [hears] at hsome
        | true =>
          simp only [hears, fillOf, ite_true] at hsome ⊢
          cases hread : readOwned options with
          | none => simp [hread] at hsome
          | some s =>
            exact ⟨place, r, options, s, rfl, hoptions, hread, rfl, q, hq,
              Question.number_of_isAnsweredBy hans, hans, hlist⟩
    · exact absurd (if_neg hany) hsome
  | _ => exact absurd rfl hsome

/-- A panel that has been closed is detached from its store. -/
theorem isDetached_of_close (store : OptionStore) (events : List (Event Call))
    (hclose : .close ∈ (played store events).calls) :
    (played store events).run.state.IsDetached := by
  refine (Exchange.play_induction (P := fun y => y.Orderly Stage.awaits Call.suits ∧
    (.close ∈ y.calls → y.run.state.IsDetached)) events
    ⟨Exchange.orderly_start _, fun h => absurd h List.not_mem_nil⟩
    fun y e _ hy => ⟨hy.1.step controller_keeps e, fun hin => ?_⟩).2 hclose
  obtain ⟨hord, hdetached⟩ := hy
  cases e with
  | call call =>
    rw [Exchange.step_call] at hin ⊢
    rcases List.mem_append.mp hin with hold | hnew
    · exact (hdetached hold).begin call
    · obtain rfl := List.mem_singleton.mp hnew
      exact isDetached_close y.run.state
  | answer n a =>
    rcases hord.answer_cases controller n a with hsame | ⟨q, stage, -, -, -, -, hstep⟩
    · rw [hsame] at hin ⊢
      exact hdetached hin
    · rw [hstep] at hin ⊢
      exact (hdetached hin).resume stage a

/-- Past its store nothing else gets to a panel that is detached. -/
theorem brings_of_isDetached (h : x.run.state.IsDetached) {e : Event Call}
    (he : isDirect e = false) : brings x e = [] := by
  have hheard (options : Fields) : x.run.state.heard options = [] := by
    rw [heard, h.hears]
    rfl
  have hin (r : Reply) : x.run.state.heardIn r = [] := by
    unfold heardIn
    split
    · exact hheard _
    · rfl
  cases e with
  | call call =>
    cases call with
    | replace options => exact hheard options
    | sync options => cases he
    | setField key value => cases he
    | _ => rfl
  | answer n a =>
    cases a with
    | reply place r => rw [brings, hin, ite_self]
    | _ => rfl

/-- An edit of an option that the panel does not own is turned away. -/
theorem step_setField_foreign (h : x.Orderly Stage.awaits Call.suits) {key : String}
    (hforeign : key ∉ FilterSettings.optionKeys) (value : Value) :
    x.step controller (.call (.setField key value)) =
      x.turnedAway (.setField key value) [] (.error (.missingKey (Text.quoted key))) := by
  have hturn : controller.begin x.run.state (.setField key value) =
      (Turn.finish x.run.state (.error (.missingKey (Text.quoted key)))).after [] := by
    have hcontains : FilterSettings.optionKeys.contains key = false := by simpa using hforeign
    simp only [controller, Panel.begin, Panel.setField, hcontains, Bool.false_eq_true, ite_false]
    rfl
  rw [Exchange.step_call, hturn]
  exact h.begins_of_finish ..

/-- However deliveries, edits, submissions, their completions and closing are interleaved, the panel
shows as loaded the last options that got to it and could be read, the defaults if there were none,
and as edited the same under the edits made since, both with just the options that it owns. Options
that cannot be read, edits of other options and the first turn of a submission change nothing, edits
leave the loaded options alone, and a later turn changes them only by the option list that its call
asked for; after the panel is closed nothing that comes through the store does. -/
theorem snapshots_follow_deliveries (store : OptionStore) (events : List (Event Call)) :
    let x := played store events
    let moves := movesOf store events
    x.run.state.loaded = Fields.lastFill (FilterSettings.toOptions {}) moves ∧
    x.run.state.inputs = Fields.override x.run.state.loaded (Fields.editsSinceFill moves) ∧
    x.run.state.loaded.names = FilterSettings.optionKeys ∧
    x.run.state.inputs.names = FilterSettings.optionKeys ∧
    (∀ e options, delivers e = some options → readOwned options = none →
      (x.step controller e).run.state.snapshots = x.run.state.snapshots) ∧
    (∀ key value, key ∉ FilterSettings.optionKeys →
      x.step controller (.call (.setField key value)) =
        x.turnedAway (.setField key value) [] (.error (.missingKey (Text.quoted key)))) ∧
    (x.step controller (.call .submit)).run.state.snapshots = x.run.state.snapshots ∧
    (∀ n a, (x.step controller (.answer n a)).run.state.snapshots ≠ x.run.state.snapshots →
      ∃ place r options s, a = .reply place r ∧ Query.optionsOf r = .ok options ∧
        readOwned options = some s ∧
        (x.step controller (.answer n a)).run.state.snapshots = (s.toOptions, s.toOptions) ∧
        ∃ q ∈ x.pending, q.number = n ∧ q.isAnsweredBy n a = true ∧ asksList q = true) ∧
    (∀ key value,
      (x.step controller (.call (.setField key value))).run.state.loaded = x.run.state.loaded) ∧
    (.close ∈ x.calls → ∀ e, isDirect e = false →
      (x.step controller e).run.state.snapshots = x.run.state.snapshots) := by
  intro x moves
  have hord : x.Orderly Stage.awaits Call.suits :=
    Exchange.orderly_play controller_keeps (join store) events
  have hshown := played_follows store events
  have hkeeps := movesOf_keeps store events
  refine ⟨hshown.loaded, ?_, ?_, ?_, fun e options hdelivers hunread =>
    snapshots_step hord (brings_of_unread hdelivers hunread),
    fun key value hforeign => step_setField_foreign hord hforeign value,
    snapshots_step hord rfl, fun n a hchanged => ?_, fun key value => ?_,
    fun hclose e he => snapshots_step hord
      (brings_of_isDetached (isDetached_of_close store events hclose) he)⟩
  · rw [hshown.inputs, Fields.foldl_apply, hshown.loaded]
  · rw [hshown.loaded]
    exact Fields.names_lastFill hkeeps rfl
  · rw [hshown.inputs]
    exact Fields.names_foldl hkeeps rfl
  · have hsome : brings x (.answer n a) ≠ [] := fun hnothing =>
      hchanged (snapshots_step hord hnothing)
    obtain ⟨place, r, options, s, hreply, hoptions, hread, hbrings, hasked⟩ :=
      of_brings_answer hsome
    have hfollows := step_follows hord (.answer n a)
    rw [hbrings] at hfollows
    exact ⟨place, r, options, s, hreply, hoptions, hread,
      Prod.ext hfollows.loaded hfollows.inputs, hasked⟩
  · have hfollows := step_follows hord (.call (.setField key value))
    rw [hfollows.loaded]
    show Fields.lastFill _ (if FilterSettings.optionKeys.contains key then _ else _) = _
    cases FilterSettings.optionKeys.contains key with
    | true => rfl
    | false => rfl

end VoucherDesk.Panel
