import Mathlib.Data.List.Induction
import VoucherDesk.Proofs.Options.Snapshots

/-!
# Listeners of the option store

Besides the panel anybody can listen to the option store, and take what it publishes well or fail.
Whatever is done to the store, and however its listeners take it, new options are published
to those who listen at that moment in the order in which they began, up to the first that fails.
Nobody hears anything before beginning or after ending to listen, and if nobody fails, all that
listen have heard the options of the store last.
-/

namespace VoucherDesk

open Dialogue

/-- The number of a watcher, if it is not the panel. -/
def Watcher.number? : Watcher → Option Nat
  | .panel => none
  | .other n _ => some n

/-- How listeners take new options at some moment: the failure of the one with a number, if it
fails. -/
abbrev Moods := Nat → Option Failure

/-- A watcher in its mood of the moment. -/
def Watcher.inMood (moods : Moods) : Watcher → Watcher
  | .panel => .panel
  | .other n _ => .other n (moods n)

/-- The listener to whom options are published, and the options. -/
def Dialogue.Effect.published? : Effect → Option (Nat × Fields)
  | .published n options => some (n, options)
  | _ => none

/-- A result unless there is a failure. -/
def resultUnless {α : Type} (failure : Option Failure) (result : α) : Except Failure α :=
  match failure with
  | some e => .error e
  | none => .ok result

/-- Those of some listeners that are told when each is told after the other: all up to the first
that fails. -/
def Moods.told (moods : Moods) : List Nat → List Nat
  | [] => []
  | n :: rest => if (moods n).isSome then [n] else n :: moods.told rest

namespace Panel

/-- The listeners of the store in the order in which they began. -/
def listeners (p : Panel) : List Nat := p.store.watchers.filterMap Watcher.number?

/-- Whether the panel itself listens. -/
def isListening (p : Panel) : Bool := p.store.watchers.any Watcher.isPanel

/-- The panel with its store, whose watchers are in the mood of the moment. -/
def inMood (moods : Moods) (p : Panel) : Panel :=
  { p with store := { p.store with watchers := p.store.watchers.map (Watcher.inMood moods) } }

/-- What is done to a store. A listener keeps its number when it ends to listen, and what it does
with options that it is told may be different every time. -/
inductive Act where
  | subscribe (fails : Option Failure)
  | unsubscribe (number : Nat)
  /-- The panel ends to listen. -/
  | leave
  | replace (moods : Moods) (options : Fields)
  /-- The reply to an option list comes, whenever it was asked for. -/
  | load (moods : Moods) (r : Reply)

namespace Act

/-- The turn in which something is done to a store. -/
def turn (p : Panel) : Act → PanelTurn
  | .subscribe fails => p.begin (.subscribe fails)
  | .unsubscribe n => p.begin (.unsubscribe n)
  | .leave => p.begin .close
  | .replace moods options => (p.inMood moods).begin (.replace options)
  | .load moods r => (p.inMood moods).resume .loading (.reply 0 r)

/-- How a listener takes what it is told. -/
def mood : Act → Moods
  | .subscribe fails => fun _ => fails
  | .replace moods _ | .load moods _ => moods
  | .unsubscribe _ | .leave => fun _ => none

/-- The options that are put into the store, if any are. -/
def put? : Act → Option Fields
  | .replace _ options => some options
  | .load _ r => (Query.optionsOf r).toOption
  | .subscribe _ | .unsubscribe _ | .leave => none

/-- Whether somebody begins to listen. -/
def isSubscribe : Act → Bool
  | .subscribe _ => true
  | _ => false

/-- Whether the panel ends to listen. -/
def isLeave : Act → Bool
  | .leave => true
  | _ => false

/-- Who watches the store after the turn. -/
def watchersAfter (p : Panel) : Act → List Watcher
  | .subscribe fails => p.store.watchers ++ [.other p.store.numbered fails]
  | .unsubscribe n => p.store.watchers.filter fun w => !w.hasNumber n
  | .leave => p.store.watchers.filter fun w => !w.isPanel
  | .replace moods _ | .load moods _ => p.store.watchers.map (Watcher.inMood moods)

/-- What is published to whom in the turn. -/
def deliveries (p : Panel) (a : Act) : List (Nat × Fields) :=
  (a.turn p).effects.filterMap Effect.published?

end Act

/-- What comes of something that is done to a store: what is published to whom, how it ends, and
which options and listeners the store then has. -/
structure Done where
  deliveries : List (Nat × Fields)
  result : Except Failure Result
  options : Fields
  listeners : List Nat

/-- What must come of something that is done to a store with options and listeners, when the next
one to listen gets a number. -/
def Act.expected (options : Fields) (listeners : List Nat) (next : Nat) : Act → Done
  | .subscribe fails =>
    ⟨[(next, options)], resultUnless fails .nothing, options, listeners ++ [next]⟩
  | .unsubscribe n => ⟨[], .ok .nothing, options, listeners.filter (· != n)⟩
  | .leave => ⟨[], .ok .nothing, options, listeners⟩
  | .replace moods new =>
    ⟨(moods.told listeners).map (·, new), resultUnless (listeners.findSome? moods) .nothing, new,
      listeners⟩
  | .load moods r =>
    match Query.optionsOf r with
    | .ok new =>
      ⟨(moods.told listeners).map (·, new),
        resultUnless (listeners.findSome? moods) (.options new), new, listeners⟩
    | .error e => ⟨[], .error e, options, listeners⟩

/-- Whether something that is done to a store comes to this. -/
structure Act.ComesTo (p : Panel) (a : Act) (d : Done) : Prop where
  deliveries : a.deliveries p = d.deliveries
  ends : (a.turn p).next = .ends d.result
  options : (a.turn p).state.store.options = d.options
  listeners : (a.turn p).state.listeners = d.listeners

/-- The panel after what is done to its store. -/
def after (p : Panel) (acts : List Act) : Panel := acts.foldl (fun p a => (a.turn p).state) p

/-- What is published to whom while things are done to the store. -/
def delivered (p : Panel) : List Act → List (Nat × Fields)
  | [] => []
  | a :: rest => a.deliveries p ++ (a.turn p).state.delivered rest

/-- Whether everybody who is told anything takes it well. -/
def Quiet (p : Panel) : List Act → Prop
  | [] => True
  | a :: rest => (∀ d ∈ a.deliveries p, a.mood d.1 = none) ∧ (a.turn p).state.Quiet rest

/-- The options that a listener was told last. -/
def lastTold (n : Nat) (deliveries : List (Nat × Fields)) : Option Fields :=
  (deliveries.filter (·.1 == n)).getLast?.map Prod.snd

/-- A store to which nobody listens yet, or only the panel. -/
def fresh (listening : Bool) (options : Fields) : Panel :=
  if listening then join { options } else { store := { options } }

section Rounds

variable {moods : Moods} {ns : List Nat} {ws : List Watcher} {p : Panel}

/-- Only those who listen are told. -/
theorem mem_of_mem_told {n : Nat} (h : n ∈ moods.told ns) : n ∈ ns := by
  induction ns with
  | nil => cases h
  | cons m rest ih =>
    rw [Moods.told] at h
    split at h
    · rw [List.mem_singleton.mp h]
      exact List.mem_cons_self
    · rcases List.mem_cons.mp h with rfl | h
      · exact List.mem_cons_self
      · exact List.mem_cons_of_mem _ (ih h)

/-- If nobody who is told fails, everybody is told. -/
theorem told_of_quiet (h : ∀ n ∈ moods.told ns, moods n = none) : moods.told ns = ns := by
  induction ns with
  | nil => rfl
  | cons m rest ih =>
    rw [Moods.told] at h ⊢
    split at h
    · next hfails =>
      rw [h m (List.mem_singleton_self _)] at hfails
      cases hfails
    · next hquiet =>
      rw [if_neg hquiet, ih fun n hn => h n (List.mem_cons_of_mem _ hn)]

theorem number?_inMood (moods : Moods) (ws : List Watcher) :
    (ws.map (Watcher.inMood moods)).filterMap Watcher.number? = ws.filterMap Watcher.number? := by
  rw [List.filterMap_map]
  refine congrArg (List.filterMap · ws) (funext fun w => ?_)
  cases w <;> rfl

theorem number?_filter_hasNumber (n : Nat) (ws : List Watcher) :
    (ws.filter fun w => !w.hasNumber n).filterMap Watcher.number? =
      (ws.filterMap Watcher.number?).filter (· != n) := by
  rw [List.filterMap_filter, List.filter_filterMap]
  refine congrArg (List.filterMap · ws) (funext fun w => ?_)
  cases w with
  | panel => rfl
  | other m fails =>
    by_cases hm : m = n <;> simp [Watcher.hasNumber, Watcher.number?, Option.filter, hm]

theorem number?_filter_isPanel (ws : List Watcher) :
    (ws.filter fun w => !w.isPanel).filterMap Watcher.number? =
      ws.filterMap Watcher.number? := by
  rw [List.filterMap_filter]
  refine congrArg (List.filterMap · ws) (funext fun w => ?_)
  cases w <;> rfl

/-- What the panel takes from the store is published to nobody. -/
theorem published_sync (p : Panel) (options : Fields) :
    (p.sync options).2.filterMap Effect.published? = [] := by
  unfold sync
  split <;> rfl

/-- A round of watchers publishes the options of the store to the listeners among them, up to the
first that fails. -/
theorem published_tellAll (p : Panel) (moods : Moods) (ws : List Watcher) :
    (p.tellAll (ws.map (Watcher.inMood moods))).effects.filterMap Effect.published? =
      (moods.told (ws.filterMap Watcher.number?)).map (·, p.store.options) := by
  induction ws generalizing p with
  | nil => rfl
  | cons w rest ih =>
    cases w with
    | panel =>
      have hrest := ih (p.sync p.store.options).1
      rw [sync_store] at hrest
      simp only [List.map_cons, Watcher.inMood, tellAll, tell, List.filterMap_append,
        published_sync, List.nil_append, hrest]
      rfl
    | other n fails =>
      rw [List.filterMap_cons_some (show Watcher.number? (.other n fails) = some n from rfl),
        Moods.told, List.map_cons, Watcher.inMood]
      cases hmood : moods n with
      | some e => rfl
      | none =>
        simp only [tellAll, tell, List.filterMap_append, ih, Option.isSome_none,
          Bool.false_eq_true, ite_false]
        rfl

/-- A round ends with the first failure. -/
theorem result_tellAll (p : Panel) (moods : Moods) (ws : List Watcher) :
    (p.tellAll (ws.map (Watcher.inMood moods))).result =
      resultUnless ((ws.filterMap Watcher.number?).findSome? moods) () := by
  induction ws generalizing p with
  | nil => rfl
  | cons w rest ih =>
    cases w with
    | panel =>
      simp only [List.map_cons, Watcher.inMood, tellAll, tell, ih]
      rfl
    | other n fails =>
      rw [List.filterMap_cons_some (show Watcher.number? (.other n fails) = some n from rfl),
        List.findSome?_cons, List.map_cons, Watcher.inMood]
      cases hmood : moods n with
      | some e => rfl
      | none => simp only [tellAll, tell, ih]

end Rounds

section Acts

variable {p : Panel} {a : Act}

theorem resultUnless_map {α β : Type} (failure : Option Failure) (a : α) (f : α → β) :
    (resultUnless failure a).map f = resultUnless failure (f a) := by
  cases failure <;> rfl

/-- What the store is after new options have been put into it in the mood of the moment. -/
theorem store_replace (p : Panel) (moods : Moods) (options : Fields) :
    ((p.inMood moods).replace options).panel.store =
      { (p.inMood moods).store with options } := tellAll_store ..

/-- The mood of the moment does not change who listens. -/
theorem listeners_inMood (p : Panel) (moods : Moods) : (p.inMood moods).listeners = p.listeners :=
  number?_inMood moods p.store.watchers

/-- New options are published to the listeners up to the first that fails. -/
theorem published_replace (p : Panel) (moods : Moods) (options : Fields) :
    ((p.inMood moods).replace options).effects.filterMap Effect.published? =
      (moods.told p.listeners).map (·, options) := published_tellAll _ moods p.store.watchers

/-- New options are put into the store with the failure of the first listener that fails. -/
theorem result_replace (p : Panel) (moods : Moods) (options : Fields) :
    ((p.inMood moods).replace options).result = resultUnless (p.listeners.findSome? moods) () :=
  result_tellAll _ moods p.store.watchers

/-- Nobody but those who begin or end to listen changes who watches the store. -/
theorem watchers_turn (p : Panel) (a : Act) :
    (a.turn p).state.store.watchers = a.watchersAfter p := by
  cases a with
  | replace moods options => exact replace_watchers (p.inMood moods) options
  | load moods r => exact take_watchers (p.inMood moods) r
  | _ => rfl

/-- Those who listen after the turn. -/
theorem listeners_turn (p : Panel) (a : Act) :
    (a.turn p).state.listeners = (a.watchersAfter p).filterMap Watcher.number? :=
  congrArg (List.filterMap Watcher.number?) (watchers_turn p a)

/-- Everything that is done to a store comes to what it must. -/
theorem comesTo_expected (p : Panel) (a : Act) :
    a.ComesTo p (a.expected p.store.options p.listeners p.store.numbered) := by
  cases a with
  | subscribe fails =>
    refine ⟨rfl, ?_, rfl, List.filterMap_append⟩
    cases fails <;> rfl
  | unsubscribe n => exact ⟨rfl, rfl, rfl, number?_filter_hasNumber n p.store.watchers⟩
  | leave => exact ⟨rfl, rfl, rfl, number?_filter_isPanel p.store.watchers⟩
  | replace moods options =>
    have hstore := store_replace p moods options
    refine ⟨?_, ?_, congrArg OptionStore.options hstore, ?_⟩
    · simp only [Act.deliveries, Act.turn, Panel.begin, endWith, Turn.after, Turn.finish,
        List.append_nil]
      exact published_replace p moods options
    · simp only [Act.turn, Panel.begin, endWith, Turn.after, Turn.finish, result_replace,
        resultUnless_map]
      rfl
    · exact (listeners_turn p _).trans (listeners_inMood p moods)
  | load moods r =>
    cases hoptions : Query.optionsOf r with
    | error e =>
      have htake : (p.inMood moods).take r =
          { panel := p.inMood moods, result := .error e } := by simp only [take, hoptions]
      simp only [Act.expected, hoptions]
      refine ⟨?_, ?_, ?_, ?_⟩
      · simp only [Act.deliveries, Act.turn, Panel.resume, htake]
        rfl
      · simp only [Act.turn, Panel.resume, htake]
        rfl
      · simp only [Act.turn, Panel.resume, htake]
        rfl
      · exact (listeners_turn p _).trans (listeners_inMood p moods)
    | ok options =>
      have hstore := store_replace p moods options
      have htake : (p.inMood moods).take r =
          { (p.inMood moods).replace options with
            effects := .log ⟨.debug, .store, "Loaded " ++ toString options.length ++ " options"⟩ ::
              ((p.inMood moods).replace options).effects } := by simp only [take, hoptions]
      simp only [Act.expected, hoptions]
      refine ⟨?_, ?_, ?_, ?_⟩
      · simp only [Act.deliveries, Act.turn, Panel.resume, htake, endWith, Turn.after, Turn.finish,
          List.append_nil]
        exact published_replace p moods options
      · simp only [Act.turn, Panel.resume, htake, endWith, Turn.after, Turn.finish, result_replace,
          resultUnless_map, hstore]
      · simp only [Act.turn, Panel.resume, htake]
        exact congrArg OptionStore.options hstore
      · exact (listeners_turn p _).trans (listeners_inMood p moods)

/-- Every listener gets a number of its own. -/
theorem numbered_turn (p : Panel) (a : Act) :
    (a.turn p).state.store.numbered = p.store.numbered + if a.isSubscribe then 1 else 0 := by
  have hreplace (moods : Moods) (options : Fields) :
      ((p.inMood moods).replace options).panel.store.numbered = p.store.numbered := by
    rw [store_replace]
    rfl
  cases a with
  | replace moods options => exact hreplace moods options
  | load moods r =>
    cases hoptions : Query.optionsOf r with
    | error e =>
      simp only [Act.turn, Panel.resume, take, hoptions]
      rfl
    | ok options =>
      simp only [Act.turn, Panel.resume, take, hoptions]
      exact hreplace moods options
  | _ => rfl

/-- The options that are put into the store are those that it then has. -/
theorem options_turn (p : Panel) (a : Act) :
    (a.turn p).state.store.options = a.put?.getD p.store.options := by
  rw [(comesTo_expected p a).options]
  cases a with
  | load moods r =>
    cases hoptions : Query.optionsOf r <;>
      simp [Act.expected, Act.put?, hoptions, Except.toOption]
  | _ => rfl

/-- Those who listen after something is done are those who listened before and were not the ones to
end it, and the one who began with it. -/
theorem mem_listeners_turn {n : Nat} :
    n ∈ (a.turn p).state.listeners ↔
      (a.isSubscribe = true ∧ p.store.numbered = n) ∨ (n ∈ p.listeners ∧ a ≠ .unsubscribe n) := by
  rw [(comesTo_expected p a).listeners]
  cases a with
  | subscribe fails =>
    rw [Act.expected, List.mem_append, List.mem_singleton]
    simp [Act.isSubscribe, or_comm, eq_comm]
  | unsubscribe m =>
    have hne : n ≠ m ↔ Act.unsubscribe m ≠ .unsubscribe n := by simpa using ne_comm
    rw [Act.expected, List.mem_filter, bne_iff_ne, hne]
    simp [Act.isSubscribe]
  | leave => simp [Act.expected, Act.isSubscribe]
  | replace moods options => simp [Act.expected, Act.isSubscribe]
  | load moods r =>
    cases hoptions : Query.optionsOf r <;> simp [Act.expected, hoptions, Act.isSubscribe]

/-- Something is published only to those who then listen. -/
theorem mem_listeners_of_mem_deliveries {d : Nat × Fields} (h : d ∈ a.deliveries p) :
    d.1 ∈ (a.turn p).state.listeners := by
  rw [(comesTo_expected p a).deliveries] at h
  rw [(comesTo_expected p a).listeners]
  have htold {moods : Moods} {options : Fields}
      (h : d ∈ (moods.told p.listeners).map (·, options)) : d.1 ∈ p.listeners := by
    obtain ⟨n, hn, rfl⟩ := List.mem_map.mp h
    exact mem_of_mem_told hn
  cases a with
  | subscribe fails =>
    rw [List.mem_singleton.mp h]
    exact List.mem_append_right _ (List.mem_singleton_self _)
  | unsubscribe m => cases h
  | leave => cases h
  | replace moods options => exact htold h
  | load moods r =>
    cases hoptions : Query.optionsOf r with
    | error e =>
      simp only [Act.expected, hoptions] at h
      cases h
    | ok options =>
      simp only [Act.expected, hoptions] at h ⊢
      exact htold h

/-- A listener is told last what all are told. -/
theorem lastTold_map {n : Nat} {ns : List Nat} (h : n ∈ ns) (options : Fields) :
    lastTold n (ns.map (·, options)) = some options := by
  unfold lastTold
  have hmem : (n, options) ∈ (ns.map (·, options)).filter (·.1 == n) :=
    List.mem_filter.mpr ⟨List.mem_map_of_mem h, beq_self_eq_true n⟩
  rw [List.getLast?_eq_some_getLast (List.ne_nil_of_mem hmem), Option.map_some]
  obtain ⟨m, -, hm⟩ := List.mem_map.mp
    (List.mem_filter.mp (List.getLast_mem (List.ne_nil_of_mem hmem))).1
  rw [← hm]

/-- What a listener is told last is told last among all. -/
theorem lastTold_append (n : Nat) (before later : List (Nat × Fields)) :
    lastTold n (before ++ later) = (lastTold n later).or (lastTold n before) := by
  unfold lastTold
  rw [List.filter_append, List.getLast?_append]
  cases (later.filter (·.1 == n)).getLast? <;> simp

/-- If all that are told take it well, whoever listens is told the options of the store, or listened
already to a store with the same options. -/
theorem lastTold_turn {n : Nat} (hquiet : ∀ d ∈ a.deliveries p, a.mood d.1 = none)
    (h : n ∈ (a.turn p).state.listeners) :
    lastTold n (a.deliveries p) = some (a.turn p).state.store.options ∨
      lastTold n (a.deliveries p) = none ∧ n ∈ p.listeners ∧
        (a.turn p).state.store.options = p.store.options := by
  rw [(comesTo_expected p a).listeners] at h
  rw [(comesTo_expected p a).options]
  rw [(comesTo_expected p a).deliveries] at hquiet ⊢
  have hround {moods : Moods} {options : Fields} (hn : n ∈ p.listeners)
      (hquiet : ∀ d ∈ (moods.told p.listeners).map (·, options), moods d.1 = none) :
      lastTold n ((moods.told p.listeners).map (·, options)) = some options := by
    rw [told_of_quiet fun m hm => hquiet (m, options) (List.mem_map_of_mem hm)]
    exact lastTold_map hn options
  cases a with
  | subscribe fails =>
    rcases List.mem_append.mp h with hold | hnew
    · by_cases hn : n = p.store.numbered
      · exact Or.inl (lastTold_map (List.mem_singleton.mpr hn) p.store.options)
      · refine Or.inr ⟨?_, hold, rfl⟩
        simp [Act.expected, lastTold, Ne.symm hn]
    · exact Or.inl (lastTold_map hnew p.store.options)
  | unsubscribe m => exact Or.inr ⟨rfl, (List.mem_filter.mp h).1, rfl⟩
  | leave => exact Or.inr ⟨rfl, h, rfl⟩
  | replace moods options => exact Or.inl (hround h hquiet)
  | load moods r =>
    cases hoptions : Query.optionsOf r with
    | error e =>
      simp only [Act.expected, hoptions] at h ⊢
      exact Or.inr ⟨rfl, h, trivial⟩
    | ok options =>
      simp only [Act.expected, hoptions] at h hquiet ⊢
      exact Or.inl (hround h hquiet)

end Acts

section Runs

variable {p : Panel} {acts : List Act} {n : Nat}

theorem after_append (p : Panel) (before later : List Act) :
    p.after (before ++ later) = (p.after before).after later := List.foldl_append

theorem delivered_append (p : Panel) (before later : List Act) :
    p.delivered (before ++ later) = p.delivered before ++ (p.after before).delivered later := by
  induction before generalizing p with
  | nil => rfl
  | cons a rest ih =>
    rw [List.cons_append, delivered, delivered, ih, List.append_assoc]
    rfl

theorem quiet_append (p : Panel) (before later : List Act) :
    p.Quiet (before ++ later) ↔ p.Quiet before ∧ (p.after before).Quiet later := by
  induction before generalizing p with
  | nil => simp [Quiet, after]
  | cons a rest ih =>
    rw [List.cons_append, Quiet, Quiet, ih, and_assoc]
    rfl

/-- The store has the options that were put into it last. -/
theorem options_after (p : Panel) (acts : List Act) :
    (p.after acts).store.options = (acts.filterMap Act.put?).getLast?.getD p.store.options := by
  induction acts using List.reverseRecOn with
  | nil => rfl
  | append_singleton before a ih =>
    rw [after_append, List.filterMap_append, List.getLast?_append]
    refine (options_turn (p.after before) a).trans ?_
    rw [ih]
    cases hput : a.put? <;> simp [hput]

/-- Whether those who listen have begun in the order of their numbers, all below the next one. -/
structure Attended (next : Nat) (p : Panel) : Prop where
  numbered : p.store.numbered = next
  bounded : ∀ n ∈ p.listeners, n < next
  sorted : p.listeners.Pairwise (· < ·)

/-- Whatever is done to a store leaves its listeners in order. -/
theorem Attended.turn {next : Nat} (h : Attended next p) (a : Act) :
    Attended (next + if a.isSubscribe then 1 else 0) (a.turn p).state where
  numbered := by rw [numbered_turn, h.numbered]
  bounded := by
    intro n hn
    rcases mem_listeners_turn.mp hn with ⟨hsubscribe, rfl⟩ | ⟨hold, -⟩
    · rw [hsubscribe, h.numbered]
      exact Nat.lt_succ_self _
    · have := h.bounded n hold
      omega
  sorted := by
    rw [(comesTo_expected p a).listeners]
    cases a with
    | subscribe fails =>
      refine List.pairwise_append.mpr ⟨h.sorted, List.pairwise_singleton .., fun m hm k hk => ?_⟩
      rw [List.mem_singleton.mp hk, h.numbered]
      exact h.bounded m hm
    | unsubscribe m => exact h.sorted.filter _
    | leave => exact h.sorted
    | replace moods options => exact h.sorted
    | load moods r =>
      cases hoptions : Query.optionsOf r with
      | error e =>
        simp only [Act.expected, hoptions]
        exact h.sorted
      | ok options =>
        simp only [Act.expected, hoptions]
        exact h.sorted

/-- At first nobody listens besides the panel. -/
theorem listeners_fresh (listening : Bool) (options : Fields) :
    (fresh listening options).listeners = [] := by
  cases listening with
  | true => simp [fresh, join, listeners, sync_store, Watcher.number?]
  | false => rfl

/-- A store to which nobody listens yet is in order. -/
theorem attended_fresh (listening : Bool) (options : Fields) :
    Attended 0 (fresh listening options) where
  numbered := by
    cases listening with
    | true => simp [fresh, join, sync_store]
    | false => rfl
  bounded := by
    rw [listeners_fresh]
    exact List.forall_mem_nil _
  sorted := by
    rw [listeners_fresh]
    exact .nil

/-- A store stays in order whatever is done to it. -/
theorem Attended.after {next : Nat} (h : Attended next p) (acts : List Act) :
    Attended (next + acts.countP Act.isSubscribe) (p.after acts) := by
  induction acts using List.reverseRecOn with
  | nil => exact h
  | append_singleton before a ih =>
    rw [after_append, List.countP_append, List.countP_singleton, ← Nat.add_assoc]
    exact ih.turn a

/-- Whether the one who begins to listen as the one with a number has not ended it since. -/
def Listens (acts : List Act) (n : Nat) : Prop :=
  ∃ before fails rest, acts = before ++ .subscribe fails :: rest ∧
    before.countP Act.isSubscribe = n ∧ ∀ a ∈ rest, a ≠ .unsubscribe n

/-- Only the last thing that is done decides whether somebody who listened still does, or begins. -/
theorem listens_append_singleton {a : Act} :
    Listens (acts ++ [a]) n ↔
      (a.isSubscribe = true ∧ acts.countP Act.isSubscribe = n) ∨
        (Listens acts n ∧ a ≠ .unsubscribe n) := by
  constructor
  · rintro ⟨before, fails, rest, hacts, hcount, hrest⟩
    rcases List.eq_nil_or_concat rest with rfl | ⟨rest', b, rfl⟩
    · obtain ⟨rfl, hb⟩ := List.append_inj' hacts rfl
      obtain rfl : a = .subscribe fails := by simpa using hb
      exact Or.inl ⟨rfl, hcount⟩
    · rw [List.concat_eq_append, ← List.cons_append, ← List.append_assoc] at hacts
      obtain ⟨rfl, hb⟩ := List.append_inj' hacts rfl
      obtain rfl : a = b := by simpa using hb
      rw [List.concat_eq_append] at hrest
      exact Or.inr ⟨⟨before, fails, rest', rfl, hcount,
        fun c hc => hrest c (List.mem_append_left _ hc)⟩,
        hrest a (List.mem_append_right _ (List.mem_singleton_self _))⟩
  · rintro (⟨hsubscribe, hcount⟩ | ⟨⟨before, fails, rest, rfl, hcount, hrest⟩, ha⟩)
    · cases a with
      | subscribe fails => exact ⟨acts, fails, [], rfl, hcount, List.forall_mem_nil _⟩
      | _ => cases hsubscribe
    · refine ⟨before, fails, rest ++ [a], by simp, hcount, fun c hc => ?_⟩
      rcases List.mem_append.mp hc with hc | hc
      · exact hrest c hc
      · rw [List.mem_singleton.mp hc]
        exact ha

/-- Those who listen are those who have begun to and not ended it since. -/
theorem mem_listeners_after (h : Attended 0 p) (hp : p.listeners = []) :
    n ∈ (p.after acts).listeners ↔ Listens acts n := by
  induction acts using List.reverseRecOn with
  | nil =>
    refine iff_of_false (fun hn => ?_) fun ⟨before, fails, rest, hacts, _⟩ => by simp at hacts
    rw [after, List.foldl_nil, hp] at hn
    cases hn
  | append_singleton before a ih =>
    rw [after_append, listens_append_singleton, ← ih]
    have hnext := (h.after before).numbered
    rw [Nat.zero_add] at hnext
    rw [← hnext]
    exact mem_listeners_turn

/-- Nobody is told anything before beginning to listen. -/
theorem lt_of_mem_delivered {next : Nat} (h : Attended next p) {d : Nat × Fields}
    (hd : d ∈ p.delivered acts) : d.1 < next + acts.countP Act.isSubscribe := by
  induction acts using List.reverseRecOn with
  | nil => cases hd
  | append_singleton before a ih =>
    rw [delivered_append] at hd
    have hafter := (h.after before).turn a
    rw [List.countP_append, List.countP_singleton, ← Nat.add_assoc]
    rcases List.mem_append.mp hd with hold | hnew
    · have := ih hold
      omega
    · rw [delivered, delivered, List.append_nil] at hnew
      exact hafter.bounded _ (mem_listeners_of_mem_deliveries hnew)

/-- Whoever has ended to listen is told nothing any more. -/
theorem notMem_delivered (hn : n ∉ p.listeners) (hlt : n < p.store.numbered) (options : Fields) :
    (n, options) ∉ p.delivered acts := by
  induction acts generalizing p with
  | nil => exact List.not_mem_nil
  | cons a rest ih =>
    have hn' : n ∉ (a.turn p).state.listeners := by
      rw [mem_listeners_turn]
      rintro (⟨-, heq⟩ | ⟨hold, -⟩)
      · omega
      · exact hn hold
    rw [delivered, List.mem_append]
    rintro (hnow | hlater)
    · exact hn' (mem_listeners_of_mem_deliveries hnow)
    · refine ih hn' ?_ hlater
      rw [numbered_turn]
      omega

/-- If everybody takes well what is told, all that listen have been told the options of the store
last. -/
theorem lastTold_after (hp : p.listeners = []) (hquiet : p.Quiet acts)
    (hn : n ∈ (p.after acts).listeners) :
    lastTold n (p.delivered acts) = some (p.after acts).store.options := by
  induction acts using List.reverseRecOn with
  | nil =>
    rw [after, List.foldl_nil, hp] at hn
    cases hn
  | append_singleton before a ih =>
    obtain ⟨hbefore, ha, -⟩ := (quiet_append p before [a]).mp hquiet
    rw [after_append] at hn
    rw [delivered_append, lastTold_append, after_append, delivered, delivered, List.append_nil]
    rcases lastTold_turn ha hn with htold | ⟨hnone, hold, hsame⟩
    · rw [htold]
      rfl
    · rw [hnone, Option.none_or, ih hbefore hold]
      exact congrArg some hsame.symm

end Runs

section PanelFirst

variable {p : Panel}

/-- Whether the panel is before all others that watch the store, if it watches. -/
def IsFirst (p : Panel) : Prop := ∀ w ∈ p.store.watchers.tail, w.isPanel = false

/-- A panel that is before all others hears of all new options as long as it listens. -/
theorem IsFirst.hears (h : p.IsFirst) (moods : Moods) :
    (p.inMood moods).hears = p.isListening := by
  unfold Panel.hears isListening inMood
  unfold IsFirst at h
  cases hwatchers : p.store.watchers with
  | nil => rfl
  | cons w rest =>
    rw [hwatchers, List.tail_cons] at h
    cases w with
    | panel => rfl
    | other n fails =>
      have hnone : (Watcher.other n fails :: rest).any Watcher.isPanel = false :=
        List.any_eq_false.mpr fun w hw => by
          rcases List.mem_cons.mp hw with rfl | hw
          · exact Bool.false_ne_true
          · rw [h w hw]
            exact Bool.false_ne_true
      rw [hnone]
      refine List.any_eq_false.mpr fun w hw => ?_
      obtain ⟨v, hv, rfl⟩ := List.mem_map.mp ((List.takeWhile_sublist _).subset hw)
      have hv' := List.any_eq_false.mp hnone v hv
      cases v <;> exact hv'

/-- Whatever is done to the store, the panel stays before all others. -/
theorem IsFirst.turn (h : p.IsFirst) (a : Act) : (a.turn p).state.IsFirst := by
  have hfilter (keep : Watcher → Bool) :
      ∀ w ∈ (p.store.watchers.filter keep).tail, w.isPanel = false := by
    unfold IsFirst at h
    cases hwatchers : p.store.watchers with
    | nil => exact List.forall_mem_nil _
    | cons v rest =>
      rw [hwatchers, List.tail_cons] at h
      rw [List.filter_cons]
      split
      · exact fun w hw => h w (List.mem_filter.mp hw).1
      · exact fun w hw => h w (List.mem_filter.mp (List.mem_of_mem_tail hw)).1
  have hmood (moods : Moods) :
      ∀ w ∈ (p.store.watchers.map (Watcher.inMood moods)).tail, w.isPanel = false := by
    rw [← List.map_tail]
    intro w hw
    obtain ⟨v, hv, rfl⟩ := List.mem_map.mp hw
    have hv' := h v hv
    cases v <;> exact hv'
  unfold IsFirst
  rw [watchers_turn]
  cases a with
  | subscribe fails =>
    have hnew : (Watcher.other p.store.numbered fails).isPanel = false := rfl
    unfold IsFirst at h
    rw [Act.watchersAfter]
    cases hwatchers : p.store.watchers with
    | nil => exact List.forall_mem_nil _
    | cons v rest =>
      rw [hwatchers, List.tail_cons] at h
      exact List.forall_mem_append.mpr ⟨h, List.forall_mem_singleton.mpr hnew⟩
  | unsubscribe n => exact hfilter _
  | leave => exact hfilter _
  | replace moods options => exact hmood moods
  | load moods r => exact hmood moods

/-- The panel listens until it ends to. -/
theorem isListening_turn (p : Panel) (a : Act) :
    (a.turn p).state.isListening = (p.isListening && !a.isLeave) := by
  have hmood (moods : Moods) :
      (p.store.watchers.map (Watcher.inMood moods)).any Watcher.isPanel = p.isListening := by
    rw [List.any_map]
    refine congrArg p.store.watchers.any (funext fun w => ?_)
    cases w <;> rfl
  unfold isListening
  rw [watchers_turn]
  cases a with
  | subscribe fails => simp [Act.watchersAfter, Act.isLeave, Watcher.isPanel]
  | unsubscribe n =>
    rw [show (Act.unsubscribe n).isLeave = false from rfl, Act.watchersAfter, List.any_filter,
      Bool.not_false, Bool.and_true]
    refine congrArg p.store.watchers.any (funext fun w => ?_)
    cases w <;> simp [Watcher.hasNumber, Watcher.isPanel]
  | leave => simp [Act.watchersAfter, Act.isLeave, List.any_filter]
  | replace moods options => exact (hmood moods).trans (Bool.and_true _).symm
  | load moods r => exact (hmood moods).trans (Bool.and_true _).symm

/-- The panel takes all options that are put into the store as long as it listens. -/
theorem IsFirst.follows (h : p.IsFirst) (a : Act) :
    p.Follows (if p.isListening then (a.put?.map fillOf).getD [] else []) (a.turn p).state := by
  have hnothing {q : Panel} (hq : p.Follows [] q) :
      p.Follows (if p.isListening then [] else []) q := by
    rwa [ite_self]
  cases a with
  | subscribe fails => exact hnothing (.nothing rfl rfl)
  | unsubscribe n => exact hnothing (.nothing rfl rfl)
  | leave => exact hnothing (.nothing rfl rfl)
  | replace moods options =>
    obtain ⟨hloaded, hinputs⟩ := replace_follows (p.inMood moods) options
    rw [heard, h.hears] at hloaded hinputs
    exact ⟨hloaded, hinputs⟩
  | load moods r =>
    obtain ⟨hloaded, hinputs⟩ := take_follows (p.inMood moods) r
    cases hoptions : Query.optionsOf r with
    | error e =>
      simp only [heardIn, hoptions] at hloaded hinputs
      simp only [Act.put?, hoptions, Except.toOption, Option.map_none, Option.getD_none, ite_self]
      exact ⟨hloaded, hinputs⟩
    | ok options =>
      simp only [heardIn, hoptions, heard, h.hears] at hloaded hinputs
      simp only [Act.put?, hoptions, Except.toOption, Option.map_some, Option.getD_some]
      exact ⟨hloaded, hinputs⟩

/-- At first the panel is before all others. -/
theorem isFirst_fresh (listening : Bool) (options : Fields) :
    (fresh listening options).IsFirst ∧ (fresh listening options).isListening = listening := by
  cases listening with
  | true => simp [fresh, join, IsFirst, isListening, sync_store, Watcher.isPanel]
  | false => simp [fresh, IsFirst, isListening]

/-- The panel stays before all others, and listens until it ends to. -/
theorem IsFirst.after (h : p.IsFirst) (acts : List Act) :
    (p.after acts).IsFirst ∧
      (p.after acts).isListening = (p.isListening && !acts.any Act.isLeave) := by
  induction acts using List.reverseRecOn with
  | nil => exact ⟨h, by simp [Panel.after]⟩
  | append_singleton before a ih =>
    rw [after_append]
    refine ⟨ih.1.turn a, (isListening_turn (p.after before) a).trans ?_⟩
    rw [ih.2, List.any_append, Bool.not_or, Bool.and_assoc]
    simp

end PanelFirst

/-- Whatever is done to a store, and however its listeners take it, everything comes to what it
must. The store has the options that were put into it last, and a list of options that cannot be had
changes nothing. Those who listen are those who have begun to and not ended it since, in the
order in which they began, and nobody else is told anything; whoever has ended to listen is told
nothing any more. As long as the panel listens, it takes all options that are put into the
store. If everybody takes well what is told, all that listen were told the options of the store
last. -/
theorem listeners_hear_store (listening : Bool) (initial : Fields) (acts : List Act) :
    let start := fresh listening initial
    let p := start.after acts
    let begun := acts.countP Act.isSubscribe
    (∀ a : Act, a.ComesTo p (a.expected p.store.options p.listeners begun)) ∧
    p.store.options = (acts.filterMap Act.put?).getLast?.getD initial ∧
    (∀ moods r e, Query.optionsOf r = .error e →
      (Act.load moods r).turn p = .finish (p.inMood moods) (.error e)) ∧
    p.listeners.Pairwise (· < ·) ∧
    (∀ n, n ∈ p.listeners ↔ Listens acts n) ∧
    (∀ n options, (n, options) ∈ start.delivered acts → n < begun) ∧
    (∀ n, n < begun → ∀ later options, (n, options) ∉ (p.unsubscribe n).delivered later) ∧
    (p.isListening = (listening && !acts.any Act.isLeave) ∧
      ∀ a : Act, p.Follows (if p.isListening then (a.put?.map fillOf).getD [] else [])
        (a.turn p).state) ∧
    (start.Quiet acts → ∀ n ∈ p.listeners,
      lastTold n (start.delivered acts) = some p.store.options) := by
  intro start p begun
  have hattended : Attended begun p := by
    have h := (attended_fresh listening initial).after acts
    rwa [Nat.zero_add] at h
  have hnone := listeners_fresh listening initial
  obtain ⟨hfirst, hlistening⟩ := isFirst_fresh listening initial
  obtain ⟨hfirst', hlistening'⟩ := hfirst.after acts
  have hinitial : start.store.options = initial := by
    cases listening with
    | true => simp [start, fresh, join, sync_store]
    | false => rfl
  refine ⟨fun a => ?_, ?_, fun moods r e he => ?_, hattended.sorted, fun n => ?_,
    fun n options hd => ?_, fun n hn later options => ?_, ⟨?_, hfirst'.follows⟩,
    fun hquiet n hn => lastTold_after hnone hquiet hn⟩
  · rw [← hattended.numbered]
    exact comesTo_expected p a
  · rw [← hinitial]
    exact options_after start acts
  · simp only [Act.turn, Panel.resume, take, he]
    rfl
  · exact mem_listeners_after (attended_fresh listening initial) hnone
  · have := lt_of_mem_delivered (attended_fresh listening initial) hd
    omega
  · have hgone : n ∉ (p.unsubscribe n).listeners := by
      intro hmem
      rcases mem_listeners_turn.mp
          (show n ∈ ((Act.unsubscribe n).turn p).state.listeners from hmem) with ⟨hs, -⟩ | ⟨-, hne⟩
      · cases hs
      · exact hne rfl
    refine notMem_delivered hgone ?_ options
    rw [show (p.unsubscribe n).store.numbered = p.store.numbered from rfl, hattended.numbered]
    exact hn
  · rw [hlistening', hlistening]

end Panel

end VoucherDesk
