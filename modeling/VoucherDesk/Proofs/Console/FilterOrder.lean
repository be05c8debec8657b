import VoucherDesk.Console.Desk
import VoucherDesk.Proofs.Console.Order
import VoucherDesk.Proofs.Dialogue.Served

/-!
# Changing the word filter

The order to change the word filter loads the options, makes its request on the settings in
them, or on the defaults if they cannot be read, stores the values that differ, and loads the
options again. When it ends well, a request that was made on the settings in the options is
met; one that was made on the defaults instead need not be.
-/

namespace VoucherDesk

open Dialogue

namespace Console.Desk

open FilterSettings

/-- The settings that a request is made on: those in the options, or the defaults if they cannot be
read. -/
def baseOf (held : Fields) : FilterSettings := (Panel.readOwned held).getD {}

section Phases

variable (files : FileTree) (fields : Fields) (wordsFile : Option String) (held : Fields)

/-- Whether items are those that are sent for the request of an order. -/
def Sends (items : List OptionItem) : Prop :=
  ∃ asked t, requestOf files fields wordsFile = some asked ∧
    Fields.override (baseOf held).toOptions asked = t.toOptions ∧
    items = itemsBetween (baseOf held) t

/-- Whether options are those after the request of an order has been carried out. -/
def Carries (after : Fields) : Prop :=
  ∃ items, Sends files fields wordsFile held items ∧ Stores items held after

/-- The phases of an order to change the word filter: where the desk waits, which questions are
open, and what the server holds. -/
inductive Phase : Stage → Desk → List Question → Fields → Prop where
  /-- The options are asked for. -/
  | listing (d : Desk) (sees : d.form.files = files) (panel : d.panel = (Panel.create []).1) :
      Phase (.listing (.setFilter fields wordsFile) .loading) d
        (questions 0 [.query .listOptions]) held
  /-- The batch is sent, and the server holds the items that it has replied to. -/
  | collecting (d : Desk) (b : Batch) (after : Fields)
      (sends : Sends files fields wordsFile held b.items) (takes : b.Takes held after) :
      Phase (.saving (.collecting b)) d (b.openQuestions 0) after
  /-- All replies are there. -/
  | settling (d : Desk) (b : Batch) (after : Fields)
      (carries : Carries files fields wordsFile held after) :
      Phase (.saving (.settling b)) d (questions 0 [.pause]) after
  /-- The batch is saved and the options are asked for again. -/
  | reloading (d : Desk) (after : Fields) (carries : Carries files fields wordsFile held after) :
      Phase (.saving .reloading) d (questions 0 [.query .listOptions]) after

/-- An order to change the word filter that ends well has been carried out. -/
def Ends (_ : Desk) (r : Except Failure Int) (after : Fields) : Prop :=
  r = .ok 0 → Carries files fields wordsFile held after

/-- Where a turn of an order to change the word filter leads. -/
abbrev LeadsOn (left : List Question) (t : DeskTurn) (after : Fields) : Prop :=
  t.Leads (Phase files fields wordsFile held) (Ends files fields wordsFile held) left after

end Phases

variable {files : FileTree} {fields : Fields} {wordsFile : Option String} {held after : Fields}
  {d : Desk}

/-- The order begins to load the options. -/
theorem begin_leadsOn (settings : Settings) (isTerminal : Bool) (files : FileTree) (fields : Fields)
    (wordsFile : Option String) (held : Fields) :
    LeadsOn files fields wordsFile held []
      ((Desk.create settings isTerminal files).begin (.setFilter fields wordsFile)) held :=
  Phase.listing _ rfl rfl

/-- A request edits the panel, which is then submitted. -/
theorem setFilter_eq (fields : Fields) (words : Option String)
    (h : IsRequest (fields ++ (words.map fun s => (wordsKey, Value.text s)).toList)) :
    let p := d.panel.edited (fields ++ (words.map fun s => (wordsKey, Value.text s)).toList)
    d.setFilter fields words = { d with panel := p }.followSaving p.submit := by
  unfold setFilter
  simp only [foldlM_setField h.owned]

/-- A request is made on what the panel shows. -/
theorem setFilter_leadsOn {words : Option String}
    (hasked : requestOf files fields wordsFile =
      some (fields ++ (words.map fun s => (wordsKey, Value.text s)).toList))
    (hrequest : IsRequest (fields ++ (words.map fun s => (wordsKey, Value.text s)).toList))
    (hinputs : d.panel.inputs = (baseOf held).toOptions)
    (hloaded : d.panel.loaded = (baseOf held).toOptions) (hfree : d.panel.loading = false) :
    LeadsOn files fields wordsFile held [] (d.setFilter fields words) held := by
  obtain ⟨t, ht⟩ := exists_override hrequest.owned hrequest.fits (baseOf held)
  have hsends : Sends files fields wordsFile held (itemsBetween (baseOf held) t) :=
    ⟨_, t, hasked, ht, rfl⟩
  have hedited : (d.panel.edited (fields ++
      (words.map fun s => (wordsKey, Value.text s)).toList)).inputs = t.toOptions := by
    rw [← ht, ← hinputs]
    rfl
  rw [setFilter_eq fields words hrequest]
  by_cases hnone : itemsBetween (baseOf held) t = []
  · rw [Panel.submit_of_nil hedited hloaded hnone]
    exact ⟨rfl, fun _ => ⟨[], hnone ▸ hsends, .nil held⟩⟩
  · rw [Panel.submit_of_ne_nil hedited hloaded hfree hnone]
    have hphase (d : Desk) : Phase files fields wordsFile held _ d _ held :=
      .collecting d _ held hsends (Batch.takes_ofItems (nodup_itemsBetween _ _) held)
    simp only [Batch.openQuestions_ofItems] at hphase
    exact hphase _

@[inherit_doc setFilter_leadsOn]
theorem setFilterFrom_leadsOn (hfiles : d.form.files = files)
    (hrequest : ∀ asked, requestOf files fields wordsFile = some asked → IsRequest asked)
    (hinputs : d.panel.inputs = (baseOf held).toOptions)
    (hloaded : d.panel.loaded = (baseOf held).toOptions) (hfree : d.panel.loading = false) :
    LeadsOn files fields wordsFile held [] (d.setFilterFrom fields wordsFile) held := by
  cases wordsFile with
  | none =>
    have hasked : requestOf files fields none =
        some (fields ++ ((none : Option String).map fun s => (wordsKey, Value.text s)).toList) :=
      congrArg some (List.append_nil fields).symm
    exact setFilter_leadsOn hasked (hrequest _ hasked) hinputs hloaded hfree
  | some path =>
    cases hread : files.readText (FileTree.pathParts path) with
    | error e =>
      simp only [setFilterFrom, hfiles, hread]
      exact ⟨rfl, fun h => nomatch h⟩
    | ok text =>
      cases text with
      | none =>
        simp only [setFilterFrom, hfiles, hread]
        exact ⟨rfl, fun h => nomatch h⟩
      | some words =>
        simp only [setFilterFrom, hfiles, hread]
        have hasked : requestOf files fields (some path) =
            some (fields ++ ((some words).map fun s => (wordsKey, Value.text s)).toList) := by
          simp only [requestOf, hread, Option.map_some, Option.toList_some]
        exact setFilter_leadsOn hasked (hrequest _ hasked) hinputs hloaded hfree

/-- With the option list an order is carried out on a panel that shows the settings in it, or the
defaults if they cannot be read. -/
theorem resume_listing (hpanel : d.panel = (Panel.create []).1) (order : Order) {place : Nat}
    {r : Reply} (hlists : Lists held r) :
    ∃ p effects, d.resume (.listing order .loading) (.reply place r) =
        ({ d with panel := p }.carryOut order).after effects ∧
      p.inputs = (baseOf held).toOptions ∧ p.loaded = (baseOf held).toOptions ∧
      p.loading = false ∧ p.store.watchers = [.panel] := by
  obtain ⟨options, hoptions, hheld⟩ := hlists.optionsOf
  have hwatchers : d.panel.store.watchers = [.panel] := by rw [hpanel]; rfl
  obtain ⟨hhears, hquiet⟩ := Panel.hears_of_watchers hwatchers
  obtain ⟨hresult, htaken⟩ := Panel.take_of_options hhears hquiet hoptions
  refine ⟨(d.panel.take r).panel, (d.panel.take r).effects ++ [], ?_, ?_⟩
  · unfold Desk.resume followListing Panel.resume Panel.endWith
    simp only [hresult]
    rfl
  · rw [htaken, hpanel, baseOf, ← Panel.readOwned_congr hheld]
    cases hread : Panel.readOwned options with
    | none =>
      rw [Panel.sync_of_unread hread]
      exact ⟨rfl, rfl, rfl, rfl⟩
    | some s =>
      rw [Panel.sync_of_read hread]
      exact ⟨rfl, rfl, rfl, rfl⟩

/-- With the option list the order makes its request. -/
theorem listing_leadsOn (hfiles : d.form.files = files) (hpanel : d.panel = (Panel.create []).1)
    (hrequest : ∀ asked, requestOf files fields wordsFile = some asked → IsRequest asked)
    {place : Nat} {r : Reply} (hlists : Lists held r) :
    LeadsOn files fields wordsFile held []
      (d.resume (.listing (.setFilter fields wordsFile) .loading) (.reply place r)) held := by
  obtain ⟨p, effects, hturn, hinputs, hloaded, hfree, -⟩ :=
    resume_listing hpanel (.setFilter fields wordsFile) hlists
  rw [hturn]
  exact setFilterFrom_leadsOn (d := { d with panel := p }) hfiles hrequest hinputs hloaded hfree

/-- With a reply to one of its items the order goes on to wait for the others, or for its turn. -/
theorem collecting_leadsOn {b : Batch} (hsends : Sends files fields wordsFile held b.items)
    (htakes : b.Takes held after) {q : Question} {query : Query} (hq : q ∈ b.openQuestions 0)
    (hask : q.ask = .query query) {r : Reply} {after' : Fields}
    (hserves : ServesOptions after query r after') :
    LeadsOn files fields wordsFile held
      ((b.openQuestions 0).filter fun p => !p.isAnsweredBy 0 (.reply q.place r))
      (d.resume (.saving (.collecting b)) (.reply q.place r)) after' := by
  obtain ⟨hmem, hopen⟩ := List.mem_filter.mp hq
  obtain ⟨item, hitem, hstore⟩ := Batch.getElem?_of_mem_questions hmem
  obtain rfl : query = .storeOption item := by
    rw [hstore] at hask
    cases hask
    rfl
  rw [hserves.of_store rfl, ← Batch.openQuestions_put]
  have hput := htakes.put hopen hitem r
  have hitems : (b.put q.place r).items = b.items := Batch.put_items b q.place r
  cases hcomplete : (b.put q.place r).isComplete with
  | true =>
    have hcarries : Carries files fields wordsFile held (after.put item.key item.value) :=
      ⟨b.items, hsends, hitems ▸ hput.stores hcomplete⟩
    simp only [Desk.resume, Panel.resume, Batch.collect_of_complete hcomplete,
      Batch.openQuestions_of_isComplete 0 hcomplete]
    exact Phase.settling _ _ _ hcarries
  | false =>
    have hphase : Phase files fields wordsFile held _ d _ _ :=
      .collecting d (b.put q.place r) _ (hitems.symm ▸ hsends) hput
    simp only [Desk.resume, Panel.resume, Batch.collect_of_incomplete hcomplete]
    rw [← List.append_nil ((b.put q.place r).openQuestions 0)] at hphase
    exact hphase

/-- Whatever the batch comes to, its request has been carried out. -/
theorem settling_leadsOn {b : Batch} (hcarries : Carries files fields wordsFile held after) :
    LeadsOn files fields wordsFile held [] (d.resume (.saving (.settling b)) .resumed) after := by
  simp only [Desk.resume, Panel.resume]
  cases hverdict : Batch.verdict b.results with
  | mk effects verdict =>
    cases verdict with
    | some r =>
      rw [Batch.settle_of_some hverdict]
      exact ⟨rfl, fun _ => hcarries⟩
    | none =>
      rw [Batch.settle_of_none hverdict]
      exact Phase.reloading _ _ hcarries

/-- With the options after the save the order ends. -/
theorem reloading_leadsOn (hcarries : Carries files fields wordsFile held after) {place : Nat}
    {r : Reply} :
    LeadsOn files fields wordsFile held [] (d.resume (.saving .reloading) (.reply place r))
      after :=
  ⟨rfl, fun _ => hcarries⟩

/-- The order to change the word filter, with a server that holds options, always stands in one of
its phases or has ended. -/
theorem stands {settings : Settings} {isTerminal : Bool}
    {x : Exchange Desk Order Stage Int}
    (hrequest : ∀ asked, requestOf files fields wordsFile = some asked → IsRequest asked)
    (h : Served controller ServesOptions (Desk.create settings isTerminal files)
      (.setFilter fields wordsFile) held x after) :
    Stands (Phase files fields wordsFile held) (Ends files fields wordsFile held) x after := by
  refine h.stands (begin_leadsOn settings isTerminal files fields wordsFile held) ?_ ?_
  · intro stage t pending v v' q query r hphase hq hans hask hserves
    cases hphase with
    | listing d sees panel =>
      obtain rfl : query = .listOptions :=
        Ask.query.inj (hask.symm.trans (ask_of_mem_singleton hq))
      obtain ⟨hlists, rfl⟩ := hserves.of_list rfl
      rw [(fits_of_singleton ⟨q, hq, hans⟩).2]
      exact listing_leadsOn sees panel hrequest hlists
    | collecting d b after sends takes => exact collecting_leadsOn sends takes hq hask hserves
    | settling d b after carries =>
      cases hask.symm.trans (ask_of_mem_singleton hq)
    | reloading d after carries =>
      obtain rfl : query = .listOptions :=
        Ask.query.inj (hask.symm.trans (ask_of_mem_singleton hq))
      obtain ⟨-, rfl⟩ := hserves.of_list rfl
      rw [(fits_of_singleton ⟨q, hq, hans⟩).2]
      exact reloading_leadsOn carries
  · intro stage t pending v q hphase hq hask
    cases hphase with
    | listing d sees panel => cases hask.symm.trans (ask_of_mem_singleton hq)
    | collecting d b after sends takes =>
      obtain ⟨item, -, hstore⟩ := Batch.ask_of_mem_questions (List.mem_filter.mp hq).1
      rw [hstore] at hask
      cases hask
    | settling d b after carries => exact settling_leadsOn carries
    | reloading d after carries => cases hask.symm.trans (ask_of_mem_singleton hq)

/-- When an order to change the word filter ends well, just the requested values that differ from
the settings it was made on have been stored. If the options could be read before, they meet the
request afterwards. If not, the request was made on the defaults, and is met only if nothing was
requested, or every option that was not sent could be read and had the requested value. -/
theorem set_meets_iff {texts : List String} {server : Option String} {level : String}
    {fields : Fields} {wordsFile : Option String} {settings : Settings} {isTerminal : Bool}
    {files : FileTree} {held after : Fields} {x : Exchange Desk Order Stage Int}
    (hread : ToolName.filter.invocation texts = .ok ⟨server, level, .setFilter fields wordsFile⟩)
    (hserved : Served controller ServesOptions (Desk.create settings isTerminal files)
      (.setFilter fields wordsFile) held x after)
    (hexit : (0, .ok 0) ∈ x.run.ended) :
    ∃ asked, requestOf files fields wordsFile = some asked ∧
      let base := (Panel.readOwned held).getD {}
      ((∀ key v, asked.get? key = some v → base.toOptions.get? key ≠ some v →
          after.get? key = some (sentValue v)) ∧
        ∀ key, (∀ v, asked.get? key = some v → base.toOptions.get? key = some v) →
          after.get? key = held.get? key) ∧
      (∀ s, Panel.readOwned held = some s → Meets after asked ∧
        ∃ t, Panel.readOwned after = some t ∧ t.toOptions = Fields.override s.toOptions asked) ∧
      (Panel.readOwned held = none → (Meets after asked ↔ asked = [] ∨ ∀ key ∈ optionKeys,
        (∃ v, asked.get? key = some v ∧ base.toOptions.get? key ≠ some v) ∨
        ∃ w, settingIn held key = some w ∧ ∀ v, asked.get? key = some v → w = v)) := by
  have hrequest : ∀ asked, requestOf files fields wordsFile = some asked → IsRequest asked :=
    fun asked => isRequest_of_invocation hread
  obtain ⟨items, ⟨asked, t, hasked, ht, rfl⟩, hstores⟩ :=
    (stands hrequest hserved).ends_of_mem hexit rfl
  have hasks := hrequest asked hasked
  refine ⟨asked, hasked, hasks.stored ht hstores, fun s hs => ?_,
    fun _ => hasks.meets_iff ht hstores⟩
  have hbase : baseOf held = s := by rw [baseOf, hs, Option.getD_some]
  rw [hbase] at ht hstores
  have hafter : Panel.readOwned after = some t := readOwned_of_stores hstores hs
  refine ⟨fun key v hv => ⟨t, hafter, ?_⟩, t, hafter, ht.symm⟩
  rw [hasks.get?_override ht, hv, Option.some_or]

section Switch

/-- The order to switch the filter. -/
def switchOrder (b : Bool) : Order := .setFilter [(enabledKey, .bool b)] none

/-- The desk with the order to switch the filter, before any reply. -/
def switchBegun (b : Bool) : Exchange Desk Order Stage Int :=
  (Exchange.start (Desk.create {} false {})).step controller (.call (switchOrder b))

/-- It waits for the options. -/
theorem waitsAlone_switchBegun (b : Bool) :
    WaitsAlone (switchBegun b) (.listing (switchOrder b) .loading) (Desk.create {} false {})
      (questions 0 [.query .listOptions]) :=
  waitsAlone_begin rfl

/-- Switching the filter is a request. -/
theorem isRequest_switch (b : Bool) : IsRequest [(enabledKey, .bool b)] := by
  have hasked : requestOf {} [(enabledKey, .bool b)] none = some [(enabledKey, .bool b)] := rfl
  exact isRequest_of_invocation (invocation_switchFlag b) hasked

/-- Where the options cannot be read, switching the filter off changes nothing and switching it on
sends the switch. -/
theorem next_listing_switch {held : Fields} (hread : Panel.readOwned held = none) {r : Reply}
    (hlists : Lists held r) (b : Bool) :
    let t := (Desk.create {} false {}).resume (.listing (switchOrder b) .loading) (.reply 0 r)
    t.state.panel.store.watchers = [.panel] ∧ t.next =
      if b then
        .waits [.query (.storeOption ⟨enabledKey, .text "true"⟩)]
          (.saving (.collecting (.ofItems [⟨enabledKey, .text "true"⟩])))
      else .ends (.ok 0) := by
  intro turn
  obtain ⟨p, effects, hturn, hinputs, hloaded, hfree, hwatchers⟩ :=
    resume_listing (d := Desk.create {} false {}) rfl (switchOrder b) hlists
  have hbase : baseOf held = {} := by rw [baseOf, hread, Option.getD_none]
  rw [hbase] at hinputs hloaded
  have hedited : (p.edited [(enabledKey, .bool b)]).inputs =
      ({ enabled := b } : FilterSettings).toOptions := by
    rw [Panel.edited, hinputs]
    rfl
  have hcarry : ({ Desk.create {} false {} with panel := p } : Desk).carryOut (switchOrder b) =
      Desk.followSaving { Desk.create {} false {} with panel := p.edited [(enabledKey, .bool b)] }
        (p.edited [(enabledKey, .bool b)]).submit :=
    setFilter_eq [(enabledKey, .bool b)] none (isRequest_switch b)
  simp only [turn]
  rw [hturn, hcarry]
  cases b with
  | false =>
    rw [Panel.submit_of_nil hedited hloaded rfl]
    exact ⟨hwatchers, rfl⟩
  | true =>
    rw [Panel.submit_of_ne_nil hedited hloaded hfree (List.cons_ne_nil _ _)]
    exact ⟨hwatchers, rfl⟩

/-- A saved request ends well once the options are listed again. -/
theorem next_reloading (hwatchers : d.panel.store.watchers = [.panel]) {place : Nat} {r : Reply}
    (hlists : Lists held r) :
    (d.resume (.saving .reloading) (.reply place r)).next = .ends (.ok 0) := by
  obtain ⟨options, hoptions, -⟩ := hlists.optionsOf
  obtain ⟨hhears, hquiet⟩ := Panel.hears_of_watchers hwatchers
  obtain ⟨hresult, -⟩ := Panel.take_of_options hhears hquiet hoptions
  simp only [Desk.resume, Panel.resume, Panel.reloaded, hresult]
  rfl

/-- Where the options cannot be read, the order to switch the filter off ends well at once. -/
theorem hasEnded_switch_off {held : Fields} (hread : Panel.readOwned held = none) {r : Reply}
    (hlists : Lists held r) :
    ∃ d, HasEnded ((switchBegun false).step controller (.answer 0 (.reply 0 r))) d (.ok 0) := by
  obtain ⟨-, hnext⟩ := next_listing_switch hread hlists false
  exact ⟨_, (waitsAlone_switchBegun false).ends (List.mem_singleton_self _) rfl hnext rfl⟩

/-- The order to switch the filter on ends well once the options are listed, the switch is stored
and the options are listed again. -/
theorem hasEnded_switch_on {held after : Fields} (hread : Panel.readOwned held = none)
    {listed stored relisted : Reply} (hlists : Lists held listed)
    {envelope : Envelope}
    (haccepts : (Query.storeOption ⟨enabledKey, .text "true"⟩).envelopeOf stored = .ok envelope)
    (hsuccess : envelope.success = true) (hrelists : Lists after relisted) :
    let collecting := (switchBegun true).step controller (.answer 0 (.reply 0 listed))
    let settling := collecting.step controller (.answer 0 (.reply 0 stored))
    let reloading := settling.step controller (.answer 0 .resumed)
    ⟨0, 0, .query (.storeOption ⟨enabledKey, .text "true"⟩)⟩ ∈ collecting.pending ∧
    ⟨0, 0, .pause⟩ ∈ settling.pending ∧
    ⟨0, 0, .query .listOptions⟩ ∈ reloading.pending ∧
    ∃ d, HasEnded (reloading.step controller (.answer 0 (.reply 0 relisted))) d (.ok 0) := by
  intro collecting settling reloading
  obtain ⟨hwatchers, hnext⟩ := next_listing_switch hread hlists true
  have hcollecting := (waitsAlone_switchBegun true).goesOn (c := controller)
    (List.mem_singleton_self _) rfl (hnext.trans (if_pos rfl))
  have hsettling := hcollecting.goesOn (c := controller) (a := .reply 0 stored)
    (List.mem_singleton_self _) rfl rfl
  have hgrants : ((Batch.ofItems [⟨enabledKey, .text "true"⟩]).put 0 stored).Grants :=
    (Batch.grants_ofItems _).put rfl rfl haccepts hsuccess
  obtain ⟨effects, hverdict⟩ := hgrants.verdict
  have hsettle (d : Desk) :
      let t := d.resume (.saving (.settling
        ((Batch.ofItems [⟨enabledKey, .text "true"⟩]).put 0 stored))) .resumed
      t.state = d ∧ t.next = .waits [.query .listOptions] (.saving .reloading) := by
    simp only [Desk.resume, Panel.resume, Batch.settle_of_none hverdict]
    exact ⟨rfl, rfl⟩
  have hreloading := hsettling.goesOn (c := controller) (a := .resumed)
    (List.mem_singleton_self _) rfl (hsettle _).2
  refine ⟨hcollecting.isOpen ▸ List.mem_singleton_self _,
    hsettling.isOpen ▸ List.mem_singleton_self _, hreloading.isOpen ▸ List.mem_singleton_self _,
    _, hreloading.ends (List.mem_singleton_self _) rfl (next_reloading ?_ hrelists) rfl⟩
  exact (congrArg (fun d : Desk => d.panel.store.watchers) (hsettle _).1).trans hwatchers

/-- A word that is no truth value makes the options unreadable. -/
theorem readOwned_maybe : Panel.readOwned [(enabledKey, .text "maybe")] = none := by
  have hmaybe : Reading.bool (.text "maybe") = .error .boolParsing := by decide +kernel
  have hsetting : settingIn [(enabledKey, .text "maybe")] enabledKey = none := by
    have hkey : enabledKey ≠ wordsKey := by decide
    simp [settingIn, Fields.get?_cons, hkey, hmaybe, Except.toOption]
  refine Option.eq_none_iff_forall_ne_some.mpr fun s hs => ?_
  have hread := readOwned_eq_some.mp hs enabledKey (by decide)
  rw [hsetting] at hread
  cases hread

/-- Switching the filter on over a switch that cannot be read ends well and is met. -/
theorem set_meets_switch_on :
    ∃ x, Served controller ServesOptions (Desk.create {} false {}) (switchOrder true)
        [(enabledKey, .text "maybe")] x [(enabledKey, .text "true")] ∧
      (0, .ok 0) ∈ x.run.ended ∧
      Meets [(enabledKey, .text "true")] [(enabledKey, .bool true)] := by
  have hlists := lists_switchText (Or.inl rfl : "maybe" = "maybe" ∨ "maybe" = "true")
  have hrelists := lists_switchText (Or.inr rfl : "true" = "maybe" ∨ "true" = "true")
  obtain ⟨hcollecting, hsettling, hreloading, d, hended⟩ :=
    hasEnded_switch_on readOwned_maybe hlists (envelopeOf_storedText _) rfl hrelists
  have hlisted : Served controller ServesOptions (Desk.create {} false {}) (switchOrder true)
      [(enabledKey, .text "maybe")] _ _ :=
    .replies (q := ⟨0, 0, .query .listOptions⟩) .begins (List.mem_singleton_self _) rfl
      (ServesOptions.lists hlists)
  have hstored := hlisted.replies hcollecting rfl
    (ServesOptions.stores (envelopeOf_storedText _) rfl)
  have hserved := (hstored.resumes hsettling rfl).replies hreloading rfl
    (ServesOptions.lists hrelists)
  have hexit := hended.ended ▸ List.mem_singleton_self (0, Except.ok 0)
  obtain ⟨asked, hasked, -, -, hmeets⟩ :=
    set_meets_iff (invocation_switchFlag true) hserved hexit
  cases hasked
  refine ⟨_, hserved, hexit, (hmeets readOwned_maybe).mpr (Or.inr ?_)⟩
  refine forall_optionKeys.mpr ⟨Or.inl ⟨_, rfl, ?_⟩, Or.inr ⟨_, rfl, ?_⟩, Or.inr ⟨_, rfl, ?_⟩⟩
  · simp [readOwned_maybe, toOptions, Fields.get?_cons]
  · intro v hv
    cases hv
  · intro v hv
    cases hv

/-- Switching the filter off over a switch that cannot be read ends well, though the switch is as
unreadable as before. -/
theorem not_set_meets_switch_off :
    ¬ ∀ (texts : List String) (server : Option String) (level : String) (fields : Fields)
      (wordsFile : Option String) (settings : Settings) (isTerminal : Bool) (files : FileTree)
      (held after : Fields) (x : Exchange Desk Order Stage Int),
      ToolName.filter.invocation texts = .ok ⟨server, level, .setFilter fields wordsFile⟩ →
      Served controller ServesOptions (Desk.create settings isTerminal files)
        (.setFilter fields wordsFile) held x after →
      (0, .ok 0) ∈ x.run.ended →
      ∃ asked, requestOf files fields wordsFile = some asked ∧ Meets after asked := by
  intro hall
  have hlists := lists_switchText (Or.inl rfl : "maybe" = "maybe" ∨ "maybe" = "true")
  have hserved : Served controller ServesOptions (Desk.create {} false {}) (switchOrder false)
      [(enabledKey, .text "maybe")] _ _ :=
    .replies (q := ⟨0, 0, .query .listOptions⟩) .begins (List.mem_singleton_self _) rfl
      (ServesOptions.lists hlists)
  obtain ⟨d, hended⟩ := hasEnded_switch_off readOwned_maybe hlists
  have hexit := hended.ended ▸ List.mem_singleton_self (0, Except.ok 0)
  obtain ⟨asked, hasked, hmeets⟩ :=
    hall _ _ _ _ _ _ _ _ _ _ _ (invocation_switchFlag false) hserved hexit
  cases hasked
  obtain ⟨s, hs, -⟩ := hmeets enabledKey (.bool false) rfl
  rw [readOwned_maybe] at hs
  cases hs

end Switch

end Console.Desk

end VoucherDesk
