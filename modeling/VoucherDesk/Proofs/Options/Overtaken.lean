import VoucherDesk.Proofs.Filter.Request
import VoucherDesk.Proofs.Options.Snapshots

/-!
# Loads that are overtaken

Loads of the option list are told apart by nothing but the order in which their replies come.
Whatever list comes last is the one that the store holds and the panel shows, also when it was
asked for before another one that has come already. Only where no two lists are asked for at
the same time is what was loaded never older than what was there.
-/

namespace VoucherDesk.Panel

open Dialogue FilterSettings

/-- The options that a reply to the option list puts into the store. -/
def listedIn (r : Reply) : List Fields := (Query.optionsOf r).toOption.toList

/-- Whether an answer is one to an open question for the option list. -/
def answersList (x : PanelExchange) (n : Nat) (a : Answer) : Bool :=
  x.pending.any fun q => q.isAnsweredBy n a && asksList q

/-- The options that an event puts into the store. -/
def puts (x : PanelExchange) : Event Call → List Fields
  | .call (.replace options) => [options]
  | .answer n (.reply place r) => if answersList x n (.reply place r) then listedIn r else []
  | _ => []

/-- All options that are put into a store that the panel has joined, in order. -/
def putsOf (store : OptionStore) (events : List (Event Call)) : List Fields :=
  (Exchange.start (join store)).gather controller puts events

/-- What the panel shows once options have been put into its store. -/
def shownAfter (p : Panel) (options : Fields) : Fields × Fields :=
  match if p.hears then readOwned options else none with
  | some s => (s.toOptions, s.toOptions)
  | none => p.snapshots

/-- Whether a question for the option list is open after a later one has been answered with a list:
when that answer came both were open, in the order in which they were asked. -/
def Overtaken (store : OptionStore) (events : List (Event Call)) (q : Question) : Prop :=
  ∃ before n place r after p, events = before ++ .answer n (.reply place r) :: after ∧
    [q, p].Sublist ((played store before).pending.filter asksList) ∧
    p.isAnsweredBy n (.reply place r) = true ∧ (∃ options, Query.optionsOf r = .ok options) ∧
    q ∈ (played store events).pending

/-- Whether the answer to a load that has been overtaken never changes the options of the store or
what the panel shows. -/
def OvertakenIgnored (store : OptionStore) (events : List (Event Call)) : Prop :=
  ∀ before n a after q, events = before ++ .answer n a :: after →
    Overtaken store before q → q.isAnsweredBy n a = true →
    let x := played store before
    let y := x.step controller (.answer n a)
    y.run.state.store.options = x.run.state.store.options ∧
      y.run.state.snapshots = x.run.state.snapshots

/-- Whether no two loads wait for the option list at the same time. -/
def LoadsApart (store : OptionStore) (events : List (Event Call)) : Prop :=
  ∀ before, before <+: events → ((played store before).pending.filter asksList).length ≤ 1

variable {x : PanelExchange}

/-- New options are those that the store holds then. -/
theorem replace_options (p : Panel) (options : Fields) :
    (p.replace options).panel.store.options = options := by
  rw [replace, tellAll_store]

/-- The options of a reply are those that the store holds then, if there are any. -/
theorem take_options (p : Panel) (r : Reply) :
    (p.take r).panel.store.options = (listedIn r).getLast?.getD p.store.options := by
  unfold take listedIn
  cases Query.optionsOf r with
  | error e => rfl
  | ok options => exact replace_options p options

/-- A first turn puts nothing into the store but options that it is given for it. -/
theorem begin_options (p : Panel) (call : Call) :
    (p.begin call).state.store.options = (puts x (.call call)).getLast?.getD p.store.options := by
  cases call with
  | replace options => exact replace_options p options
  | sync options => exact congrArg OptionStore.options (sync_store p options)
  | setField key value =>
    simp only [Panel.begin, Panel.setField]
    split
    · next q hset =>
      split at hset
      · cases hset
        rfl
      · cases hset
    · rfl
  | submit =>
    show p.submit.state.store.options = p.store.options
    cases submit_begins p with
    | loads load turn => cases load
    | sends submits free items changed found turn => rw [turn]
    | declines submits r next state => rw [state]
    | ends other r next follows => cases other
  | _ => rfl

/-- What a later turn of a call puts into the store. -/
def Stage.puts : Stage → Answer → List Fields
  | .loading, .reply _ r => listedIn r
  | .reloading, .reply _ r => listedIn r
  | _, _ => []

/-- A later turn puts nothing into the store but the options of the reply that it waits for. -/
theorem resume_options (p : Panel) (stage : Stage) (a : Answer) :
    (p.resume stage a).state.store.options =
      (stage.puts a).getLast?.getD p.store.options := by
  cases stage with
  | loading =>
    cases a with
    | reply place r => exact take_options p r
    | _ => rfl
  | reloading =>
    cases a with
    | reply place r => exact take_options p r
    | _ => rfl
  | collecting b =>
    cases resume_resumes p (.collecting b) a with
    | listed place r lists => simp at lists
    | collects b' place r collecting reply turn => rw [turn]; rfl
    | completes b' place r collecting reply complete turn => rw [turn]; rfl
    | reloads b' settling => cases settling
    | ends b' settling => cases settling
    | ignored unfit quiet turn => rw [turn]; rfl
  | settling b =>
    cases resume_resumes p (.settling b) a with
    | listed place r lists => simp at lists
    | collects b' place r collecting => cases collecting
    | completes b' place r collecting => cases collecting
    | reloads b' settling next state => rw [state]; rfl
    | ends b' settling r next state => rw [state]; rfl
    | ignored unfit quiet turn => rw [turn]; rfl

/-- An answer puts into the store what it puts there at the stage of its call. -/
theorem puts_answer (h : x.Orderly Stage.awaits Call.suits) {n : Nat} {a : Answer} {stage : Stage}
    (hw : (n, stage) ∈ x.run.waiting) {q : Question} (haw : q ∈ stage.awaits n)
    (hans : q.isAnsweredBy n a = true) : puts x (.answer n a) = stage.puts a := by
  cases a with
  | reply place r =>
    rw [puts, answersList, any_asksList h hw haw hans]
    cases stage <;> rfl
  | _ => cases stage <;> rfl

/-- One event makes the store hold the options that it puts there. -/
theorem step_options (h : x.Orderly Stage.awaits Call.suits) (e : Event Call) :
    (x.step controller e).run.state.store.options =
      (puts x e).getLast?.getD x.run.state.store.options := by
  cases e with
  | call call =>
    rw [Exchange.step_call]
    exact begin_options x.run.state call
  | answer n a =>
    by_cases hopen : ∃ q ∈ x.pending, q.isAnsweredBy n a = true
    · obtain ⟨q, hq, hans⟩ := hopen
      obtain rfl : q.number = n := Question.number_of_isAnsweredBy hans
      obtain ⟨stage, hw, haw⟩ := h.exists_stage hq
      rw [puts_answer h hw haw hans, Exchange.step_answer hq hans (h.lookup hw)]
      exact resume_options x.run.state stage a
    · have hnothing : puts x (.answer n a) = [] := by
        cases a with
        | reply place r =>
          refine if_neg fun hany => ?_
          obtain ⟨q, hq, hboth⟩ := List.any_eq_true.mp hany
          exact hopen ⟨q, hq, (Bool.and_eq_true_iff.mp hboth).1⟩
        | _ => rfl
      rw [hnothing, Exchange.step_unasked fun q hq hans => hopen ⟨q, hq, hans⟩]
      rfl

/-- The list that a reply brings replaces the options of the store, and the panel shows it if it
hears of it and can read it. -/
theorem step_list (h : x.Orderly Stage.awaits Call.suits) {n place : Nat} {r : Reply}
    (hanswers : answersList x n (.reply place r) = true) {options : Fields}
    (hoptions : Query.optionsOf r = .ok options) :
    let y := x.step controller (.answer n (.reply place r))
    y.run.state.store.options = options ∧
      y.run.state.snapshots = shownAfter x.run.state options := by
  have hputs : puts x (.answer n (.reply place r)) = [options] := by
    rw [puts, if_pos hanswers, listedIn, hoptions]
    rfl
  have hbrings : brings x (.answer n (.reply place r)) = x.run.state.heardIn r := if_pos hanswers
  have hfollows := step_follows h (.answer n (.reply place r))
  refine ⟨by rw [step_options h, hputs]; rfl, ?_⟩
  simp only [hbrings, heardIn, hoptions, heard, fillOf] at hfollows
  rw [shownAfter]
  cases hears : x.run.state.hears with
  | false =>
    rw [hears] at hfollows
    exact Prod.ext hfollows.loaded hfollows.inputs
  | true =>
    rw [hears] at hfollows
    cases hread : readOwned options with
    | none =>
      rw [hread] at hfollows
      exact Prod.ext hfollows.loaded hfollows.inputs
    | some s =>
      rw [hread] at hfollows
      exact Prod.ext hfollows.loaded hfollows.inputs

/-- A reply without a list changes neither the options of the store nor what the panel shows. -/
theorem step_no_list (h : x.Orderly Stage.awaits Call.suits) {n place : Nat} {r : Reply}
    {e : Failure} (hoptions : Query.optionsOf r = .error e) :
    let y := x.step controller (.answer n (.reply place r))
    y.run.state.store.options = x.run.state.store.options ∧
      y.run.state.snapshots = x.run.state.snapshots := by
  have hputs : puts x (.answer n (.reply place r)) = [] := by
    rw [puts, listedIn, hoptions]
    exact ite_self _
  have hbrings : brings x (.answer n (.reply place r)) = [] := by
    rw [brings, heardIn, hoptions]
    exact ite_self _
  exact ⟨by rw [step_options h, hputs]; rfl, snapshots_step h hbrings⟩

/-- Where no two loads wait at the same time none is overtaken. -/
theorem not_overtaken {store : OptionStore} {events : List (Event Call)}
    (hapart : LoadsApart store events) (q : Question) : ¬ Overtaken store events q := by
  rintro ⟨before, n, place, r, after, p, rfl, hboth, -⟩
  have hone := hapart before (List.prefix_append _ _)
  have htwo : 2 ≤ ((played store before).pending.filter asksList).length := hboth.length_le
  omega

/-- A load that is overtaken waits for the option list, and only a reply answers it. -/
theorem Overtaken.answered {store : OptionStore} {events : List (Event Call)} {q : Question}
    (h : Overtaken store events q) {n : Nat} {a : Answer} (hans : q.isAnsweredBy n a = true) :
    answersList (played store events) n a = true ∧ ∃ place r, a = .reply place r := by
  obtain ⟨before, -, -, -, -, p, -, hboth, -, -, hq⟩ := h
  have hlist : asksList q = true :=
    (List.mem_filter.mp (hboth.subset List.mem_cons_self)).2
  refine ⟨List.any_eq_true.mpr ⟨q, hq, by rw [hans, hlist]; rfl⟩, ?_⟩
  obtain ⟨number, place, ask⟩ := q
  cases ask with
  | query query =>
    cases a with
    | reply place r => exact ⟨place, r, rfl⟩
    | _ => simp [Question.isAnsweredBy, Answer.fits] at hans
  | _ => cases hlist

/-- However loads, submissions and the answers to them are interleaved, the store holds the options
that were put into it last, in the order in which they came. Whenever the list of a load comes, the
store holds it from then on and the panel shows it, if it hears of it and can read it, whether or
not a later load has been answered before; a reply without a list changes neither. So overtaken
loads are ignored just in those runs in which each of them brings what is there already. Where no
two loads wait at the same time none is overtaken. -/
theorem last_list_shown (store : OptionStore) (events : List (Event Call)) :
    let x := played store events
    x.run.state.store.options = (putsOf store events).getLast?.getD store.options ∧
    (∀ n place r, answersList x n (.reply place r) = true →
      let y := x.step controller (.answer n (.reply place r))
      (∀ options, Query.optionsOf r = .ok options →
        y.run.state.store.options = options ∧
          y.run.state.snapshots = shownAfter x.run.state options) ∧
      ∀ e, Query.optionsOf r = .error e →
        y.run.state.store.options = x.run.state.store.options ∧
          y.run.state.snapshots = x.run.state.snapshots) ∧
    (OvertakenIgnored store events ↔
      ∀ before n place r after q options, events = before ++ .answer n (.reply place r) :: after →
        Overtaken store before q → q.isAnsweredBy n (.reply place r) = true →
        Query.optionsOf r = .ok options →
        let x := played store before
        options = x.run.state.store.options ∧
          shownAfter x.run.state options = x.run.state.snapshots) ∧
    (LoadsApart store events → ∀ q, ¬ Overtaken store events q) := by
  have hord (events : List (Event Call)) : (played store events).Orderly Stage.awaits Call.suits :=
    Exchange.orderly_play controller_keeps (join store) events
  refine ⟨?_, fun n place r hanswers => ⟨fun options => step_list (hord events) hanswers,
    fun e => step_no_list (hord events)⟩, ⟨?_, ?_⟩, not_overtaken⟩
  · have hjoined : (join store).store.options = store.options := by rw [join, sync_store]
    rw [← hjoined]
    exact Exchange.Orderly.play_getLast controller_keeps (·.store.options) step_options (hord [])
      events
  · intro hignored before n place r after q options hevents hovertaken hans hoptions
    obtain ⟨hheld, hshown⟩ := hignored before n _ after q hevents hovertaken hans
    obtain ⟨hheld', hshown'⟩ := step_list (hord before) (hovertaken.answered hans).1 hoptions
    exact ⟨hheld'.symm.trans hheld, hshown'.symm.trans hshown⟩
  · intro hnothing before n a after q hevents hovertaken hans
    obtain ⟨hanswers, place, r, rfl⟩ := hovertaken.answered hans
    cases hoptions : Query.optionsOf r with
    | error e => exact step_no_list (hord before) hoptions
    | ok options =>
      obtain ⟨hheld, hshown⟩ :=
        hnothing before n place r after q options hevents hovertaken hans hoptions
      obtain ⟨hheld', hshown'⟩ := step_list (hord before) hanswers hoptions
      exact ⟨hheld'.trans hheld, hshown'.trans hshown⟩

/-- The options are loaded twice; the list without any comes after the one with the filter switched
on, which was asked for later, and replaces it. -/
theorem not_overtakenIgnored_two_loads :
    ¬ OvertakenIgnored {} [.call .load, .call .load,
      .answer 1 (.reply 0 (.answered 200 (switchText "true"))),
      .answer 0 (.reply 0 (.answered 200 storedText))] := by
  intro hignored
  obtain ⟨options, hoptions, hheld⟩ :=
    (lists_switchText (Or.inr rfl : "true" = "maybe" ∨ "true" = "true")).optionsOf
  have hnone : Query.optionsOf (.answered 200 storedText) = .ok [] := by
    simp [Query.optionsOf, envelopeOf_storedText, Query.itemsOf, Value.isTruthy, Query.readItems,
      Fields.ofPairs, Except.map]
  have hord (events : List (Event Call)) : (played {} events).Orderly Stage.awaits Call.suits :=
    Exchange.orderly_play controller_keeps (join {}) events
  -- The second load is answered first, and the first one is overtaken.
  have hfirst := step_list (hord [.call .load, .call .load])
    (rfl : answersList _ 1 (.reply 0 _) = true) hoptions
  have hovertaken : Overtaken {} [.call .load, .call .load,
      .answer 1 (.reply 0 (.answered 200 (switchText "true")))] ⟨0, 0, .query .listOptions⟩ :=
    ⟨[.call .load, .call .load], 1, 0, _, [], ⟨1, 0, .query .listOptions⟩, rfl, .refl _, rfl,
      ⟨options, hoptions⟩, List.mem_singleton_self _⟩
  have hsame := (hignored _ 0 _ [] _ rfl hovertaken rfl).1
  have hanswers : answersList _ 0 (.reply 0 (.answered 200 storedText)) = true :=
    (hovertaken.answered rfl).1
  have hsecond := step_list (hord _) hanswers hnone
  have hempty : options = [] := hfirst.1.symm.trans (hsame.symm.trans hsecond.1)
  have hget := hheld enabledKey
  rw [hempty] at hget
  cases hget

end VoucherDesk.Panel
