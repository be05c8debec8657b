import VoucherDesk.Proofs.Dialogue.Served
import VoucherDesk.Proofs.Filter.Request

/-!
# Saving the settings of the word filter

A panel that shows edited settings and submits them sends the values that differ, waits for
all replies, and loads the options again. With a server that holds options and stores what it
is sent, the submission ends in whatever order the replies come; the panel then shows its
edited settings as loaded, and has nothing to submit.
-/

namespace VoucherDesk.Panel

open Dialogue FilterSettings

variable {p q : Panel} {s t : FilterSettings} {held after : Fields}

/-- What a save comes to, for the panel that was submitted and the one that is left: the edited
settings are shown as loaded, the store holds what the server holds, the values that had been
edited are stored as they are sent and nothing else has changed, and submitting once more finds
nothing to send. -/
structure Converged (q f : Panel) (held after : Fields) : Prop where
  inputs : f.inputs = q.inputs
  loaded : f.loaded = q.inputs
  free : f.loading = false
  options : ∀ key, f.store.options.get? key = after.get? key
  stored : ∀ key v, q.inputs.get? key = some v → q.loaded.get? key ≠ some v →
    after.get? key = some (sentValue v)
  kept : ∀ key, q.inputs.get? key = q.loaded.get? key → after.get? key = held.get? key
  settled : f.begin .submit =
    (Turn.finish f (.ok (.outcome .unchanged))).after [.warning "Nothing was changed"]

section Phases

variable (q : Panel) (s t : FilterSettings) (held : Fields)

/-- The phases of a submission that is served: where it waits, with which panel, which questions are
open, and what the server holds. -/
inductive SavePhase : Stage → Panel → List Question → Fields → Prop where
  /-- Some replies are missing, and the server holds the items that it has replied to. -/
  | collecting (b : Batch) (after : Fields) (items : b.items = itemsBetween s t)
      (takes : b.Takes held after) (grants : b.Grants) (incomplete : b.isComplete = false) :
      SavePhase (.collecting b) { q with loading := true } (b.openQuestions 0) after
  /-- All replies are there. -/
  | settling (b : Batch) (after : Fields) (stores : Stores (itemsBetween s t) held after)
      (grants : b.Grants) :
      SavePhase (.settling b) { q with loading := true } (questions 0 [.pause]) after
  /-- The batch is saved and the options are asked for again. -/
  | reloading (after : Fields) (stores : Stores (itemsBetween s t) held after) :
      SavePhase .reloading { q with loading := true } (questions 0 [.query .listOptions]) after

/-- The end of a submission that is served. -/
def Saves (f : Panel) (r : Except Failure Result) (after : Fields) : Prop :=
  r = .ok (.outcome .saved) ∧ q.Converged f held after

/-- Where a turn of a submission leads from a stage: to a phase from which fewer answers are taken,
or to its end. -/
abbrev SavesOn (stage : Stage) (left : List Question) (turn : PanelTurn) (after : Fields) : Prop :=
  turn.Leads
    (fun stage' f pending after => SavePhase q s t held stage' f pending after ∧
      controller.remaining stage' < controller.remaining stage)
    (q.Saves held) left after

end Phases

/-- In every phase a question is open. -/
theorem SavePhase.pending_ne_nil {stage : Stage} {f : Panel} {pending : List Question}
    (h : SavePhase q s t held stage f pending after) : pending ≠ [] := by
  cases h with
  | collecting b after items takes grants incomplete =>
    obtain ⟨place, hopen⟩ : ∃ place, b.isOpen place = true := by
      by_contra hnone
      have hcomplete : b.isComplete = true :=
        Batch.isComplete_iff.mpr fun place => Bool.eq_false_iff.mpr fun h => hnone ⟨place, h⟩
      exact Bool.false_ne_true (incomplete.symm.trans hcomplete)
    obtain ⟨question, hmem, -⟩ :=
      Batch.exists_open_question 0 takes.length hopen (.broken "")
    exact List.ne_nil_of_mem hmem
  | settling b after stores grants => exact List.cons_ne_nil _ _
  | reloading after stores => exact List.cons_ne_nil _ _

/-- Edited settings that differ are sent. -/
theorem submit_savesOn (hinputs : q.inputs = t.toOptions) (hloaded : q.loaded = s.toOptions)
    (hfree : q.loading = false) (hsome : itemsBetween s t ≠ []) :
    (q.begin .submit).Leads (SavePhase q s t held) (q.Saves held) [] held := by
  show q.submit.Leads _ _ [] held
  rw [submit_of_ne_nil hinputs hloaded hfree hsome]
  have hincomplete : (Batch.ofItems (itemsBetween s t)).isComplete = false := by
    refine Bool.eq_false_iff.mpr fun hcomplete => ?_
    have hclosed := Batch.isComplete_iff.mp hcomplete 0
    rw [Batch.isOpen_ofItems] at hclosed
    have hlen := List.length_pos_iff.mpr hsome
    exact absurd hlen (of_decide_eq_false hclosed)
  have hphase : SavePhase q s t held _ _ _ held :=
    .collecting _ held rfl (Batch.takes_ofItems (nodup_itemsBetween s t) held)
      (Batch.grants_ofItems _) hincomplete
  rw [Batch.openQuestions_ofItems] at hphase
  exact hphase

/-- With a reply the submission goes on to wait for the others, or for its turn. -/
theorem collecting_savesOn {b : Batch} (hitems : b.items = itemsBetween s t)
    (htakes : b.Takes held after) (hgrants : b.Grants) {question : Question} {query : Query}
    (hq : question ∈ b.openQuestions 0) (hask : question.ask = .query query) {r : Reply}
    {after' : Fields} (hserves : ServesOptions after query r after') :
    SavesOn q s t held (.collecting b)
      ((b.openQuestions 0).filter fun o => !o.isAnsweredBy 0 (.reply question.place r))
      (Panel.resume { q with loading := true } (.collecting b) (.reply question.place r))
      after' := by
  obtain ⟨hmem, hopen⟩ := List.mem_filter.mp hq
  obtain ⟨item, hitem, hstore⟩ := Batch.getElem?_of_mem_questions hmem
  obtain rfl : query = .storeOption item := Ask.query.inj (hask.symm.trans hstore)
  obtain ⟨envelope, henvelope, hsuccess⟩ := hserves.accepts_of_store rfl
  rw [hserves.of_store rfl, ← Batch.openQuestions_put]
  have hput := htakes.put hopen hitem r
  have hgranted := hgrants.put hopen hitem henvelope hsuccess
  have hkept : (b.put question.place r).items = itemsBetween s t := by
    rw [Batch.put_items, hitems]
  have hfewer : (b.put question.place r).missing < b.missing := Batch.missing_put hopen r
  cases hcomplete : (b.put question.place r).isComplete with
  | true =>
    have hstores : Stores (itemsBetween s t) held (after.put item.key item.value) :=
      hkept ▸ hput.stores hcomplete
    have hremaining : controller.remaining (.settling (b.put question.place r)) <
        controller.remaining (.collecting b) := by
      show 2 < b.missing + 2
      omega
    simp only [Panel.resume, Batch.collect_of_complete hcomplete,
      Batch.openQuestions_of_isComplete 0 hcomplete]
    exact ⟨.settling _ _ hstores hgranted, hremaining⟩
  | false =>
    have hphase : SavePhase q s t held _ _ _ _ :=
      .collecting (b.put question.place r) _ hkept hput hgranted hcomplete
    have hremaining : controller.remaining (.collecting (b.put question.place r)) <
        controller.remaining (.collecting b) := by
      show (b.put question.place r).missing + 2 < b.missing + 2
      omega
    simp only [Panel.resume, Batch.collect_of_incomplete hcomplete]
    rw [← List.append_nil ((b.put question.place r).openQuestions 0)] at hphase
    exact ⟨hphase, hremaining⟩

/-- A batch whose options are all stored is saved, and the options are asked for again. -/
theorem settling_savesOn {b : Batch} (hstores : Stores (itemsBetween s t) held after)
    (hgrants : b.Grants) :
    SavesOn q s t held (.settling b) []
      (Panel.resume { q with loading := true } (.settling b) .resumed) after := by
  obtain ⟨effects, hverdict⟩ := hgrants.verdict
  have hremaining : controller.remaining .reloading < controller.remaining (.settling b) := by
    show 1 < 2
    omega
  simp only [Panel.resume, Batch.settle_of_none hverdict]
  exact ⟨.reloading _ hstores, hremaining⟩

/-- With the options after the save the submission ends, and the panel shows what it has saved. -/
theorem reloading_savesOn (hinputs : q.inputs = t.toOptions) (hloaded : q.loaded = s.toOptions)
    (hhears : q.hears = true) (hquiet : ∀ w ∈ q.store.watchers, w.fails = false)
    (hread : readOwned held = some s) (hstores : Stores (itemsBetween s t) held after)
    {r : Reply} (hlists : Lists after r) (place : Nat) :
    SavesOn q s t held .reloading []
      (Panel.resume { q with loading := true } .reloading (.reply place r)) after := by
  obtain ⟨options, hoptions, hheld⟩ := hlists.optionsOf
  have hshown : readOwned options = some t := by
    rw [readOwned_congr hheld]
    exact readOwned_of_stores hstores hread
  have hbusy : Panel.hears { q with loading := true } = true := hhears
  obtain ⟨hresult, htaken⟩ := take_of_options hbusy hquiet hoptions
  rw [sync_of_read hshown] at htaken
  simp only [Panel.resume, reloaded, hresult, htaken]
  refine ⟨rfl, rfl, hinputs.symm, hinputs.symm, rfl, hheld, ?_, ?_, ?_⟩
  · intro key v hnew hne
    rw [hinputs] at hnew
    rw [hloaded] at hne
    exact get?_of_ne hstores hnew hne
  · intro key hsame
    rw [hinputs, hloaded] at hsame
    exact get?_of_eq hstores hsame.symm
  · exact submit_of_nil rfl rfl (itemsBetween_eq_nil.mpr rfl)

/-- A submission of settings that differ from those that a server holds ends however it is served,
and its panel has converged with the server. -/
theorem submit_completes (hinputs : q.inputs = t.toOptions) (hloaded : q.loaded = s.toOptions)
    (hhears : q.hears = true) (hquiet : ∀ w ∈ q.store.watchers, w.fails = false)
    (hfree : q.loading = false) (hread : readOwned held = some s)
    (hsome : itemsBetween s t ≠ []) :
    Completes controller ServesOptions (q.Saves held)
      ((Exchange.start q).step controller (.call .submit)) held := by
  have hbegins : Stands (SavePhase q s t held) (q.Saves held)
      ((Exchange.start q).step controller (.call .submit)) held :=
    .begins (submit_savesOn hinputs hloaded hfree hsome)
  refine hbegins.completes (fun h => h.pending_ne_nil) ?_ ?_
  · intro stage f pending v v' question query r hphase hq hans hask hserves
    cases hphase with
    | collecting b after items takes grants incomplete =>
      exact collecting_savesOn items takes grants hq hask hserves
    | settling b after stores grants => cases hask.symm.trans (ask_of_mem_singleton hq)
    | reloading after stores =>
      obtain rfl : query = .listOptions :=
        Ask.query.inj (hask.symm.trans (ask_of_mem_singleton hq))
      obtain ⟨hlists, rfl⟩ := hserves.of_list rfl
      rw [(fits_of_singleton ⟨question, hq, hans⟩).2]
      exact reloading_savesOn hinputs hloaded hhears hquiet hread stores hlists
        question.place
  · intro stage f pending v question hphase hq hask
    cases hphase with
    | collecting b after items takes grants incomplete =>
      obtain ⟨item, -, hstore⟩ := Batch.ask_of_mem_questions (List.mem_filter.mp hq).1
      cases hask.symm.trans hstore
    | settling b after stores grants => exact settling_savesOn stores grants
    | reloading after stores => cases hask.symm.trans (ask_of_mem_singleton hq)

/-- A panel that hears of its store, where no watcher fails, takes the settings in the options of a
server and any edits of them. If the edited settings are those in the options, a submission finds
nothing changed and asks nothing. If not, it stores just the values that differ, each once, and ends
however the server replies: as saved, with the panel showing the edited settings as loaded, the
store holding what the server holds, and nothing left to submit. -/
theorem submit_converges {edits : Fields} (hhears : p.hears = true)
    (hquiet : ∀ w ∈ p.store.watchers, w.fails = false) (hfree : p.loading = false)
    (hread : readOwned held = some s) (hedits : ∀ e ∈ edits, e.1 ∈ optionKeys ∧ Fits e.1 e.2) :
    ∃ q, edits.foldlM (fun p e => p.setField e.1 e.2) (p.sync held).1 = .ok q ∧
      ((∀ key, q.inputs.get? key = q.loaded.get? key) →
        q.begin .submit =
          (Turn.finish q (.ok (.outcome .unchanged))).after [.warning "Nothing was changed"] ∧
        ((∀ key, p.store.options.get? key = held.get? key) → q.Converged q held held)) ∧
      ((∃ key, q.inputs.get? key ≠ q.loaded.get? key) →
        (∃ items : List OptionItem,
          (q.begin .submit).asks = items.map (fun item => .query (.storeOption item)) ∧
          (items.map OptionItem.key).Nodup ∧
          ∀ item, item ∈ items ↔ ∃ v, q.inputs.get? item.key = some v ∧
            q.loaded.get? item.key ≠ some v ∧ item.value = sentValue v) ∧
        Completes controller ServesOptions (q.Saves held)
          ((Exchange.start q).step controller (.call .submit)) held) := by
  have howned : ∀ e ∈ edits, e.1 ∈ optionKeys := fun e he => (hedits e he).1
  have hfits : ∀ e ∈ edits, Fits e.1 e.2 := fun e he => (hedits e he).2
  obtain ⟨t, ht⟩ := exists_override howned hfits s
  have hsynced := sync_of_read hread p
  have hinputs : ((p.sync held).1.edited edits).inputs = t.toOptions := by
    rw [hsynced, ← ht]
    rfl
  have hloaded : ((p.sync held).1.edited edits).loaded = s.toOptions := by
    rw [hsynced]
    rfl
  refine ⟨(p.sync held).1.edited edits, foldlM_setField howned _, fun hsame => ?_, fun hdiff => ?_⟩
  · rw [hinputs, hloaded] at hsame
    obtain rfl : t = s := toOptions_ext fun key _ => hsame key
    have hsubmit := submit_of_nil hinputs hloaded (itemsBetween_eq_nil.mpr rfl)
    refine ⟨hsubmit, fun hstore => ?_⟩
    have hstored : ((p.sync held).1.edited edits).store = p.store := sync_store p held
    refine ⟨rfl, hloaded.trans hinputs.symm, ?_, ?_, ?_, fun _ _ => rfl, hsubmit⟩
    · rw [hsynced]
      exact hfree
    · rw [hstored]
      exact hstore
    · intro key v hnew hne
      rw [hinputs] at hnew
      rw [hloaded] at hne
      exact absurd hnew hne
  · rw [hinputs, hloaded] at hdiff
    have hsome : itemsBetween s t ≠ [] := by
      intro hnone
      obtain ⟨key, hne⟩ := hdiff
      rw [itemsBetween_eq_nil.mp hnone] at hne
      exact hne rfl
    have hfreed : ((p.sync held).1.edited edits).loading = false := by
      rw [hsynced]
      exact hfree
    have hbegin : ((p.sync held).1.edited edits).begin .submit = _ :=
      submit_of_ne_nil hinputs hloaded hfreed hsome
    have hheard : ((p.sync held).1.edited edits).hears = true := by
      rw [hsynced]
      exact hhears
    have hstill : ∀ w ∈ ((p.sync held).1.edited edits).store.watchers, w.fails = false := by
      rw [hsynced]
      exact hquiet
    refine ⟨⟨itemsBetween s t, ?_, nodup_itemsBetween s t, fun item => ?_⟩,
      submit_completes hinputs hloaded hheard hstill hfreed hread hsome⟩
    · rw [hbegin]
      rfl
    · rw [hinputs, hloaded]
      exact mem_itemsBetween

/-- A new panel on which the filter has been switched on. -/
def switchedOn : Panel :=
  { (create []).1 with inputs := ({ enabled := true } : FilterSettings).toOptions }

/-- It converges with a server that held nothing before. -/
theorem submit_converges_switch_on :
    ∃ x, [(enabledKey, Value.bool true)].foldlM (fun p e => p.setField e.1 e.2)
        ((create []).1.sync []).1 = .ok switchedOn ∧
      Served controller ServesOptions switchedOn .submit [] x [(enabledKey, .text "true")] ∧
      x.run.ended = [(0, .ok (.outcome .saved))] ∧
      switchedOn.Converged x.run.state [] [(enabledKey, .text "true")] := by
  have hswitched : [(enabledKey, Value.bool true)].foldlM (fun p e => p.setField e.1 e.2)
      ((create []).1.sync []).1 = .ok switchedOn := rfl
  have hread : readOwned [] = some {} := rfl
  have hedits : ∀ e ∈ [(enabledKey, Value.bool true)], e.1 ∈ optionKeys ∧ Fits e.1 e.2 :=
    List.forall_mem_singleton.mpr ⟨by decide, true, rfl⟩
  obtain ⟨hhears, hquiet⟩ := hears_of_watchers (p := (create []).1) rfl
  obtain ⟨q, hq, -, hsaves⟩ := submit_converges hhears hquiet rfl hread hedits
  obtain rfl : switchedOn = q := Except.ok.inj (hswitched.symm.trans hq)
  have hdiffers : switchedOn.inputs.get? enabledKey ≠ switchedOn.loaded.get? enabledKey := by
    have hinputs : switchedOn.inputs.get? enabledKey = some (.bool true) := rfl
    have hloaded : switchedOn.loaded.get? enabledKey = some (.bool false) := rfl
    simp [hinputs, hloaded]
  obtain ⟨-, hcompletes⟩ := hsaves ⟨enabledKey, hdiffers⟩
  -- The switch is stored, then the submission has its turn, then the options are listed.
  have haccepts := envelopeOf_storedText (.storeOption ⟨enabledKey, .text "true"⟩)
  have hlists := lists_switchText (Or.inr rfl : "true" = "maybe" ∨ "true" = "true")
  have hgrants : ((Batch.ofItems [⟨enabledKey, .text "true"⟩]).put 0
      (.answered 200 storedText)).Grants :=
    (Batch.grants_ofItems _).put rfl rfl haccepts rfl
  obtain ⟨effects, hverdict⟩ := hgrants.verdict
  have hbegin : (controller.begin switchedOn .submit).next = _ :=
    congrArg Turn.next (submit_of_ne_nil (p := switchedOn) (s := {}) (t := { enabled := true })
      rfl rfl rfl (List.cons_ne_nil _ _))
  have hcollecting := waitsAlone_begin hbegin
  have hsettling := hcollecting.goesOn (c := controller) (a := .reply 0 (.answered 200 storedText))
    (List.mem_singleton_self _) rfl rfl
  have hreloading := hsettling.goesOn (c := controller) (a := .resumed)
    (List.mem_singleton_self _) rfl (congrArg Turn.next (Batch.settle_of_none hverdict))
  have hended := hreloading.ends (c := controller)
    (a := .reply 0 (.answered 200 (switchText "true"))) (List.mem_singleton_self _) rfl rfl rfl
  have hstored : Served controller ServesOptions switchedOn .submit [] _ _ :=
    .replies (q := ⟨0, 0, .query (.storeOption ⟨enabledKey, .text "true"⟩)⟩) .begins
      (hcollecting.isOpen ▸ List.mem_singleton_self _) rfl (ServesOptions.stores haccepts rfl)
  have hserved := (hstored.resumes (q := ⟨0, 0, .pause⟩)
    (hsettling.isOpen ▸ List.mem_singleton_self _) rfl).replies (q := ⟨0, 0, .query .listOptions⟩)
    (hreloading.isOpen ▸ List.mem_singleton_self _) rfl (ServesOptions.lists hlists)
  obtain ⟨f, r, hdone, rfl, hconverged⟩ :=
    (hcompletes.of_served hserved).exists_hasEnded hended.pending
  exact ⟨_, hswitched, hserved, hdone.ended, hdone.state ▸ hconverged⟩

end VoucherDesk.Panel
