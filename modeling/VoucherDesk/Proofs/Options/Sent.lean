import VoucherDesk.Client.Basic
import VoucherDesk.Proofs.Dialogue.Course
import VoucherDesk.Proofs.Dialogue.Guard
import VoucherDesk.Proofs.Filter.Settings
import VoucherDesk.Proofs.Options.Settlement
import VoucherDesk.Proofs.Options.Snapshots

/-!
# What a submission of the panel sends

A submission stores just the options that are edited to another value than was loaded, in their
order and with the values that they have when it begins. It sends all of them in its first turn,
and what is edited or loaded later does not get into them. A submission of nothing ends at once
whatever else is under way, any other one is turned away while another is.
-/

namespace VoucherDesk

open Dialogue

/-- The request for an option that can be sent. -/
theorem Client.request_storeOption {c : Client} {address : Address} {item : OptionItem}
    (hsendable : (Query.storeOption item).payload.unsendable? = none)
    (haddress : Address.join c.base "/api/option/" = .ok address) :
    c.request (.storeOption item) =
      .ok ⟨.put, address, .record item.toFields, c.authorization address, c.timeout⟩ := by
  have hjoin : Address.join c.base (Query.storeOption item).path = .ok address := haddress
  unfold Client.request
  rw [hjoin]
  simp only [bind, Except.bind, hsendable]
  rfl

namespace Panel

section Loading

variable {p : Panel}

/-- Options given to the panel do not change whether it is loading. -/
theorem sync_loading (p : Panel) (options : Fields) : (p.sync options).1.loading = p.loading := by
  cases hread : readOwned options with
  | none => rw [sync_of_unread hread]
  | some s => rw [sync_of_read hread]

/-- New options of the store do not change whether the panel is loading. -/
theorem replace_loading (p : Panel) (options : Fields) :
    (p.replace options).panel.loading = p.loading := by
  rw [replace, tellAll_panel]
  split
  · exact sync_loading _ _
  · rfl

/-- The options of a reply do not change whether the panel is loading. -/
theorem take_loading (p : Panel) (r : Reply) : (p.take r).panel.loading = p.loading := by
  cases hoptions : Query.optionsOf r with
  | error e => simp only [take, hoptions]
  | ok options =>
    simp only [take, hoptions]
    exact replace_loading p options

/-- No call but a submission changes whether the panel is loading. -/
theorem begin_loading {call : Call} (h : call.isSubmit = false) :
    (p.begin call).state.loading = p.loading := by
  cases call with
  | replace options => exact replace_loading p options
  | sync options => exact sync_loading p options
  | setField key value =>
    simp only [Panel.begin, Panel.setField]
    split
    · next q hset =>
      split at hset
      · cases hset
        rfl
      · cases hset
    · rfl
  | submit => cases h
  | load | close | subscribe fails | unsubscribe n | assign key value => rfl

/-- The panel is loading just while a call is at a stage of a submission. -/
theorem controller_guards : controller.Guards Panel.loading Stage.isSubmission where
  begin_free := by
    intro p call hat
    have hturn : (p.begin call).isAt Stage.isSubmission = true := hat
    cases begin_begins p call with
    | loads load turn =>
      rw [turn] at hturn
      cases hturn
    | sends submits free items changed found turn => exact free
    | declines submits r next state => simp [Turn.isAt, next] at hturn
    | ends other r next follows => simp [Turn.isAt, next] at hturn
  begin_flag := by
    intro p call
    show (p.begin call).state.loading = (p.loading || (p.begin call).isAt Stage.isSubmission)
    cases begin_begins p call with
    | loads load turn =>
      rw [turn]
      exact (Bool.or_false _).symm
    | sends submits free items changed found turn =>
      rw [turn]
      exact (Bool.or_true _).symm
    | declines submits r next state => simp [Turn.isAt, next, state]
    | ends other r next follows => simp [Turn.isAt, next, begin_loading other]
  resume_held := by
    intro p stage a hstage hloading
    show (p.resume stage a).state.loading = (p.resume stage a).isAt Stage.isSubmission
    cases resume_resumes p stage a with
    | listed place r lists reply ends follows watchers =>
      subst reply
      rcases lists with rfl | rfl
      · cases hstage
      · rfl
    | collects b place r collecting reply turn =>
      rw [turn]
      exact hloading
    | completes b place r collecting reply complete turn =>
      rw [turn]
      exact hloading
    | reloads b settling next state => simp [Turn.isAt, next, state, hloading, Stage.isSubmission]
    | ends b settling r next state => simp [Turn.isAt, next, state]
    | ignored unfit quiet turn =>
      rw [turn]
      exact hloading.trans hstage.symm
  resume_free := by
    intro p stage a hstage
    show (p.resume stage a).state.loading = p.loading ∧ (p.resume stage a).isAt _ = false
    cases stage with
    | loading =>
      cases a with
      | reply place r => exact ⟨take_loading p r, rfl⟩
      | ended r | line text | resumed => exact ⟨rfl, rfl⟩
    | collecting b | settling b | reloading => cases hstage

/-- The panel is loading just while a submission is under way. -/
theorem loading_iff_underWay (store : OptionStore) (events : List (Event Call)) :
    (played store events).run.state.loading = true ↔
      (played store events).underWay Call.isSubmit ≠ [] := by
  have hfree : (join store).loading = false := sync_loading _ _
  have hcount := Exchange.length_underWay_guarded Call.isSubmit controller_keeps controller_guards
    (fun h => h.symm) hfree events
  rw [← List.length_pos_iff_ne_nil, hcount]
  cases (played store events).run.state.loading <;> decide

end Loading

section Changed

variable {p : Panel}

/-- Whether a value of an option differs from the one that was loaded. -/
def hasChanged (p : Panel) (edit : String × Value) : Bool :=
  match p.loaded.get? edit.1 with
  | some old => !old.same edit.2
  | none => true

/-- The options that are edited to another value than was loaded, as they are sent. -/
def changedItems (p : Panel) : List OptionItem :=
  (p.inputs.filter p.hasChanged).map fun edit => ⟨edit.1, sentValue edit.2⟩

/-- A changed value is sent, and no other is. -/
theorem map_changeOf (p : Panel) (edit : String × Value) :
    (Changes.changeOf p.loaded edit.1 edit.2).map
        (fun c => (⟨c.name, sentValue c.new⟩ : OptionItem)) =
      if p.hasChanged edit then some ⟨edit.1, sentValue edit.2⟩ else none := by
  unfold Changes.changeOf hasChanged
  cases p.loaded.get? edit.1 with
  | none => rfl
  | some old => cases hsame : old.same edit.2 <;> simp [hsame]

/-- The changes of the edited options are those that are sent. -/
theorem map_between (p : Panel) :
    (Changes.between p.inputs p.loaded).map (fun c => ⟨c.name, sentValue c.new⟩) =
      p.changedItems := by
  rw [Changes.between, changedItems, List.map_filterMap, ← List.filterMap_eq_map,
    List.filterMap_filter]
  exact List.filterMap_congr fun edit _ => p.map_changeOf edit

/-- Nothing has changed just when nothing is sent. -/
theorem between_eq_nil : Changes.between p.inputs p.loaded = [] ↔ p.changedItems = [] := by
  rw [← map_between, List.map_eq_nil_iff]

/-- The options that are sent stand under names of the edited ones, in their order. -/
theorem keys_changedItems_sublist (p : Panel) :
    (p.changedItems.map OptionItem.key).Sublist p.inputs.names := by
  rw [changedItems, List.map_map]
  exact List.filter_sublist.map _

/-- A submission of nothing ends at once. -/
theorem submit_unchanged (h : p.changedItems = []) :
    p.submit = (Turn.finish p (.ok (.outcome .unchanged))).after
      [.warning "Nothing was changed"] := by
  simp only [submit, between_eq_nil.mpr h]

/-- A submission of something is turned away while another one is under way. -/
theorem submit_busy (h : p.changedItems ≠ []) (hloading : p.loading = true) :
    p.submit = (Turn.finish p (.ok (.outcome .busy))).after
      [.warning "A submission is already in progress"] := by
  have hchanged : Changes.between p.inputs p.loaded ≠ [] := between_eq_nil.not.mpr h
  obtain ⟨first, rest, hchanges⟩ := List.exists_cons_of_ne_nil hchanged
  simp only [submit, hchanges, Batch.accept, hloading, ite_true]
  rfl

/-- Any other submission sends the options that have changed. -/
theorem submit_sends (hnames : p.inputs.names.Nodup) (h : p.changedItems ≠ [])
    (hfree : p.loading = false) :
    p.submit = { state := { p with loading := true }
                 next := .waits (Batch.ofItems p.changedItems).asks
                   (.collecting (Batch.ofItems p.changedItems)) } := by
  have hchanged : Changes.between p.inputs p.loaded ≠ [] := between_eq_nil.not.mpr h
  have hitems := Batch.itemsOf_changes hnames p.loaded
  rw [map_between] at hitems
  obtain ⟨first, rest, hchanges⟩ := List.exists_cons_of_ne_nil hchanged
  rw [hchanges] at hitems
  simp only [submit, hchanges, Batch.accept, hfree, Bool.false_eq_true, ite_false, hitems]
  rfl

end Changed

section Sent

/-- Whether what a call does stores nothing: a query that it sends is for something to be shown. -/
def OnlyReads (d : Deed Result) : Prop := ∀ q, d = .sends q → q.method = .get

/-- A later turn of a call asks for the option list at most. -/
theorem asks_resume (p : Panel) (stage : Stage) (a : Answer) {q : Query}
    (h : .query q ∈ (p.resume stage a).asks) : q = .listOptions := by
  unfold Turn.asks at h
  cases resume_resumes p stage a with
  | listed place r lists reply ends follows watchers =>
    obtain ⟨result, hends⟩ := ends
    simp [hends] at h
  | collects b place r collecting reply turn =>
    rw [turn] at h
    cases h
  | completes b place r collecting reply complete turn =>
    rw [turn] at h
    cases List.mem_singleton.mp h
  | reloads b settling next state =>
    rw [next] at h
    exact Ask.query.inj (List.mem_singleton.mp h)
  | ends b settling r next state => simp [next] at h
  | ignored unfit quiet turn =>
    rw [turn] at h
    cases h

/-- No later turn of a call stores an option. -/
theorem onlyReads_resume (p : Panel) (stage : Stage) (a : Answer) :
    ∀ d ∈ (p.resume stage a).deeds, OnlyReads d := by
  rintro d hd q rfl
  rw [asks_resume p stage a (Turn.query_mem_asks hd)]
  rfl

variable (store : OptionStore) (before events : List (Event Call))

/-- A call that ends with its first turn does nothing after it. -/
theorem deedsOf_of_finish (call : Call) {effects : List Effect} {r : Except Failure Result}
    (h : controller.begin (played store before).run.state call =
      (Turn.finish (played store before).run.state r).after effects) :
    (played store (before ++ .call call :: events)).deedsOf (played store before).run.begun =
      effects.filterMap Effect.deed? ++ [.gives r] := by
  have hord := Exchange.orderly_play controller_keeps (join store) before
  obtain ⟨hafter, hdeeds⟩ :
      Exchange.After Stage.awaits Call.suits (fun _ => True) (fun _ => false) _ _ _ ∧ _ :=
    hord.after_begin controller_keeps (fun _ _ => rfl) call fun _ => trivial
  rw [Exchange.deedsOf_begun controller_keeps, h] at hdeeds
  have hplay : played store (before ++ .call call :: events) =
      ((played store before).step controller (.call call)).play controller events :=
    Exchange.play_append ..
  rw [hplay, hafter.orderly.deedsOf_play controller_keeps (hafter.ends (congrArg Turn.next h)),
    hdeeds, Turn.deeds_after]
  rfl

/-- The edited options of a panel are named once each. -/
theorem nodup_inputs : (played store before).run.state.inputs.names.Nodup := by
  have hnames : (played store before).run.state.inputs.names = FilterSettings.optionKeys := by
    rw [(played_follows store before).inputs]
    exact Fields.names_foldl (movesOf_keeps store before) rfl
  rw [hnames]
  exact FilterSettings.nodup_optionKeys

/-- A submission that is let in sends the options that have changed in its first turn, and stores
none afterwards. -/
theorem deedsOf_of_sends (h : (played store before).run.state.changedItems ≠ [])
    (hfree : (played store before).run.state.loading = false) :
    let x := played store before
    let sent := x.run.state.changedItems.map fun item => Deed.sends (.storeOption item)
    (x.step controller (.call .submit)).deedsOf x.run.begun = sent ∧
      ∃ later, (played store (before ++ .call .submit :: events)).deedsOf x.run.begun =
        sent ++ later ∧ ∀ d ∈ later, OnlyReads d := by
  intro x sent
  have hord := Exchange.orderly_play controller_keeps (join store) before
  have hturn : controller.begin (played store before).run.state .submit = _ :=
    submit_sends (nodup_inputs store before) h hfree
  have hfirst : (x.step controller (.call .submit)).deedsOf x.run.begun = sent := by
    rw [Exchange.step_call, Exchange.deedsOf_begins, if_pos rfl,
      Exchange.deedsOf_begun controller_keeps, hturn]
    simp only [Turn.deeds, Turn.asks, Turn.ending, Batch.asks, Batch.ofItems, List.filterMap_nil,
      List.nil_append, List.append_nil, List.filterMap_map]
    exact congrFun List.filterMap_eq_map _
  have hbegun : x.run.begun < (x.step controller (.call .submit)).run.begun := by
    rw [Exchange.step_call]
    exact Nat.lt_succ_self _
  obtain ⟨later, hlater, hreads⟩ := (hord.step controller_keeps (.call .submit)).exists_later_deeds
    controller_keeps onlyReads_resume hbegun events
  have hplay : played store (before ++ .call .submit :: events) =
      ((played store before).step controller (.call .submit)).play controller events :=
    Exchange.play_append ..
  exact ⟨hfirst, later, by rw [hplay, hlater, hfirst], hreads⟩

end Sent

/-- However edits, deliveries, submissions and the answers to them have been interleaved before and
are interleaved after, a submission of the panel that finds no other one under way stores just the
options whose edited value differs from the loaded one, each once, in their order and with the value
that they have at that moment, as it is sent: it sends them in its first turn, all of them if the
values can be encoded, and stores nothing later. If no value differs it sends nothing, warns once
and ends as unchanged, even while another submission is under way; if some value differs and another
one is under way, it sends nothing and is turned away. -/
theorem submit_sends_changes (store : OptionStore) (before events : List (Event Call)) :
    let x := played store before
    let p := x.run.state
    let y := played store (before ++ .call .submit :: events)
    (p.changedItems.map OptionItem.key).Sublist p.inputs.names ∧
    p.inputs.names.Nodup ∧
    (x.underWay Call.isSubmit = [] → p.changedItems ≠ [] →
      (x.step controller (.call .submit)).deedsOf x.run.begun =
          p.changedItems.map (fun item => .sends (.storeOption item)) ∧
        ∃ later, y.deedsOf x.run.begun =
            p.changedItems.map (fun item => .sends (.storeOption item)) ++ later ∧
          ∀ d ∈ later, OnlyReads d) ∧
    ((∀ edit ∈ p.inputs, edit.2.unsendable? = none) → ∀ item ∈ p.changedItems,
      ∀ (c : Client) address, Address.join c.base "/api/option/" = .ok address →
        c.request (.storeOption item) = .ok ⟨.put, address,
          .record [("key", .text item.key), ("value", item.value)],
          c.authorization address, c.timeout⟩) ∧
    (p.changedItems = [] → y.deedsOf x.run.begun =
      [.has (.warning "Nothing was changed"), .gives (.ok (.outcome .unchanged))]) ∧
    (x.underWay Call.isSubmit ≠ [] → p.changedItems ≠ [] → y.deedsOf x.run.begun =
      [.has (.warning "A submission is already in progress"), .gives (.ok (.outcome .busy))]) := by
  intro x p y
  refine ⟨keys_changedItems_sublist p, nodup_inputs store before, fun hnone hchanged => ?_,
    fun hvalues item hitem c address haddress => ?_, fun hsame => ?_, fun hother hchanged => ?_⟩
  · have hfree : p.loading = false :=
      Bool.eq_false_iff.mpr fun h => (loading_iff_underWay store before).mp h hnone
    exact deedsOf_of_sends store before events hchanged hfree
  · obtain ⟨edit, hedit, rfl⟩ := List.mem_map.mp hitem
    have hvalue := hvalues edit (List.mem_filter.mp hedit).1
    exact Client.request_storeOption (Submission.unsendable?_storeOption hvalue) haddress
  · exact deedsOf_of_finish store before events .submit (submit_unchanged hsame)
  · have hloading : p.loading = true := (loading_iff_underWay store before).mpr hother
    exact deedsOf_of_finish store before events .submit (submit_busy hchanged hloading)

/-- Two edits are sent as they were when they were submitted, though one of them is edited again
and new options are shown while they are stored. -/
theorem edits_sent_as_submitted :
    let before : List (Event Call) :=
      [.call (.setField "CheckSensitiveEnabled" (.bool true)),
        .call (.setField "SensitiveWords" (.text "spam"))]
    let events : List (Event Call) :=
      [.call (.setField "SensitiveWords" (.text "ham")), .call (.sync []), .call .submit]
    ∃ later, (played {} (before ++ .call .submit :: events)).deedsOf 2 =
        [.sends (.storeOption ⟨"CheckSensitiveEnabled", .text "true"⟩),
          .sends (.storeOption ⟨"SensitiveWords", .text "spam"⟩)] ++ later ∧
      ∀ d ∈ later, OnlyReads d := by
  intro before events
  have hitems : (played {} before).run.state.changedItems =
      [⟨"CheckSensitiveEnabled", .text "true"⟩, ⟨"SensitiveWords", .text "spam"⟩] := by rfl
  obtain ⟨-, -, hsends, -⟩ := submit_sends_changes {} before events
  obtain ⟨-, later, hlater, hreads⟩ := hsends rfl (by rw [hitems]; exact List.cons_ne_nil _ _)
  rw [hitems] at hlater
  exact ⟨later, hlater, hreads⟩

end Panel

end VoucherDesk
