import VoucherDesk.Proofs.Filter.Settings
import VoucherDesk.Proofs.Options.Server

/-!
# Requests to change the settings of the word filter

A request names new values for some settings. What is sent for it are the values that differ
from the settings that it is made on, and whether it is met afterwards is decided by what was
read of the options before.
-/

namespace VoucherDesk

/-- The panel after edits in order. -/
def Panel.edited (p : Panel) (edits : Fields) : Panel :=
  { p with inputs := Fields.override p.inputs edits }

namespace FilterSettings

variable {s t : FilterSettings} {key : String}

/-- A request: new values for some settings, each of which is named once and fits its value. -/
structure IsRequest (asked : Fields) : Prop where
  owned : ∀ p ∈ asked, p.1 ∈ optionKeys
  fits : ∀ p ∈ asked, Fits p.1 p.2
  nodup : asked.names.Nodup

/-- Whether options meet a request: they can be read, and every setting that the request names has
the value that it asks for. -/
def Meets (options asked : Fields) : Prop :=
  ∀ key v, asked.get? key = some v →
    ∃ s, Panel.readOwned options = some s ∧ s.toOptions.get? key = some v

/-- An edit of a setting with a value that fits makes other settings. -/
theorem exists_put (s : FilterSettings) : ∀ key ∈ optionKeys, ∀ v, Fits key v →
    ∃ t : FilterSettings, s.toOptions.put key v = t.toOptions := by
  refine forall_optionKeys.mpr ⟨?_, ?_, ?_⟩
  · rintro v ⟨b, rfl⟩
    exact ⟨{ s with enabled := b }, rfl⟩
  · rintro v ⟨b, rfl⟩
    exact ⟨{ s with onPrompt := b }, rfl⟩
  · rintro v ⟨words, rfl⟩
    exact ⟨{ s with words }, rfl⟩

/-- Edits of settings with values that fit make other settings. -/
theorem exists_override {edits : Fields} (howned : ∀ e ∈ edits, e.1 ∈ optionKeys)
    (hfits : ∀ e ∈ edits, Fits e.1 e.2) (s : FilterSettings) :
    ∃ t : FilterSettings, Fields.override s.toOptions edits = t.toOptions := by
  induction edits generalizing s with
  | nil => exact ⟨s, rfl⟩
  | cons e rest ih =>
    obtain ⟨hkey, howned⟩ := List.forall_mem_cons.mp howned
    obtain ⟨hfit, hfits⟩ := List.forall_mem_cons.mp hfits
    obtain ⟨t, ht⟩ := exists_put s _ hkey _ hfit
    rw [show Fields.override s.toOptions (e :: rest) =
      Fields.override (s.toOptions.put e.1 e.2) rest from rfl, ht]
    exact ih howned hfits t

/-- The panel takes all edits of settings. -/
theorem foldlM_setField {edits : Fields} (howned : ∀ e ∈ edits, e.1 ∈ optionKeys) (p : Panel) :
    edits.foldlM (fun p e => p.setField e.1 e.2) p = .ok (p.edited edits) := by
  induction edits generalizing p with
  | nil => rfl
  | cons e rest ih =>
    obtain ⟨hkey, howned⟩ := List.forall_mem_cons.mp howned
    have hset : p.setField e.1 e.2 = .ok { p with inputs := p.inputs.put e.1 e.2 } :=
      if_pos (List.contains_iff_mem.mpr hkey)
    rw [List.foldlM_cons, hset]
    exact ih howned _

namespace IsRequest

variable {asked : Fields}

/-- Under a request a setting has the value that is asked for, or else the one it had. -/
theorem get?_override (h : IsRequest asked) (ht : Fields.override s.toOptions asked = t.toOptions)
    (key : String) : t.toOptions.get? key = (asked.get? key).or (s.toOptions.get? key) := by
  rw [← ht]
  exact Fields.get?_override h.nodup s.toOptions key

end IsRequest

/-- The items that are sent to change settings: the values that differ, as they are sent. -/
def itemsBetween (s t : FilterSettings) : List OptionItem :=
  (Changes.between t.toOptions s.toOptions).map fun c => ⟨c.name, sentValue c.new⟩

/-- The items have different keys. -/
theorem nodup_itemsBetween (s t : FilterSettings) :
    ((itemsBetween s t).map OptionItem.key).Nodup := by
  rw [itemsBetween, List.map_map]
  exact (Changes.names_between_sublist t.toOptions s.toOptions).nodup nodup_optionKeys

/-- An item is sent for each setting whose value differs. -/
theorem mem_itemsBetween {item : OptionItem} :
    item ∈ itemsBetween s t ↔ ∃ v, t.toOptions.get? item.key = some v ∧
      s.toOptions.get? item.key ≠ some v ∧ item.value = sentValue v := by
  rw [itemsBetween, List.mem_map]
  constructor
  · rintro ⟨c, hc, rfl⟩
    obtain ⟨hnew, hchange⟩ := (Changes.mem_between (names_toOptions t ▸ nodup_optionKeys)).mp hc
    refine ⟨c.new, hnew, fun hsame => ?_, rfl⟩
    rcases (Changes.changeOf_eq_some.mp hchange).2.2 with ⟨hnone, -⟩ | ⟨old, hold, hdiff, -⟩
    · cases hnone.symm.trans hsame
    · obtain rfl := Option.some.inj (hold.symm.trans hsame)
      have hfits := fits_of_get? hnew
      exact Bool.false_ne_true (hdiff.symm.trans ((hfits.same_iff hfits).mpr rfl))
  · rintro ⟨v, hnew, hne, hvalue⟩
    have hkey : item.key ∈ t.toOptions.names :=
      Fields.isSome_get?.mp (Option.isSome_of_eq_some hnew)
    obtain ⟨old, hold, hfits⟩ := fits_toOptions s item.key hkey
    have hdiff : old.same v = false := by
      refine Bool.eq_false_iff.mpr fun hsame => hne ?_
      rw [hold, (hfits.same_iff (fits_of_get? hnew)).mp hsame]
    refine ⟨⟨item.key, old, v⟩, (Changes.mem_between (names_toOptions t ▸ nodup_optionKeys)).mpr
      ⟨hnew, Changes.changeOf_eq_some.mpr ⟨rfl, rfl, Or.inr ⟨old, hold, hdiff, rfl⟩⟩⟩, ?_⟩
    rw [← hvalue]

/-- Nothing is sent just where the settings are the same. -/
theorem itemsBetween_eq_nil : itemsBetween s t = [] ↔ s = t := by
  rw [List.eq_nil_iff_forall_not_mem]
  constructor
  · intro hnone
    refine toOptions_ext fun key hkey => ?_
    obtain ⟨v, hnew, -⟩ := fits_toOptions t key hkey
    by_contra hdiff
    have hne : s.toOptions.get? key ≠ some v := fun hsame => hdiff (hsame.trans hnew.symm)
    exact hnone ⟨key, sentValue v⟩ (mem_itemsBetween.mpr ⟨v, hnew, hne, rfl⟩)
  · rintro rfl item hitem
    obtain ⟨v, hnew, hne, -⟩ := mem_itemsBetween.mp hitem
    exact hne hnew

section Stores

variable {held after : Fields}

/-- A value that differs from the one before is found as it was sent. -/
theorem get?_of_ne (h : Stores (itemsBetween s t) held after) {v : Value}
    (hnew : t.toOptions.get? key = some v) (hne : s.toOptions.get? key ≠ some v) :
    after.get? key = some (sentValue v) :=
  h.stored ⟨key, sentValue v⟩ (mem_itemsBetween.mpr ⟨v, hnew, hne, rfl⟩)

/-- What does not differ is found as it was held. -/
theorem get?_of_eq (h : Stores (itemsBetween s t) held after)
    (heq : s.toOptions.get? key = t.toOptions.get? key) : after.get? key = held.get? key := by
  refine h.kept key fun hmem => ?_
  obtain ⟨item, hitem, rfl⟩ := List.mem_map.mp hmem
  obtain ⟨v, hnew, hne, -⟩ := mem_itemsBetween.mp hitem
  exact hne (heq.trans hnew)

/-- Where the settings that a request was made on are those in the options, the options hold the
settings under the request afterwards. -/
theorem readOwned_of_stores (h : Stores (itemsBetween s t) held after)
    (hread : Panel.readOwned held = some s) : Panel.readOwned after = some t := by
  refine readOwned_eq_some.mpr fun key hkey => ?_
  obtain ⟨v, hnew, hfits⟩ := fits_toOptions t key hkey
  by_cases heq : s.toOptions.get? key = some v
  · rw [settingIn_congr (get?_of_eq h (heq.trans hnew.symm)),
      readOwned_eq_some.mp hread key hkey, heq, hnew]
  · rw [settingIn_of_sent hfits (get?_of_ne h hnew heq), hnew]

end Stores

namespace IsRequest

variable {asked held after : Fields}

/-- Of a request just the values that differ are stored, and everything else stays. -/
theorem stored (h : IsRequest asked) (ht : Fields.override s.toOptions asked = t.toOptions)
    (hstores : Stores (itemsBetween s t) held after) :
    (∀ key v, asked.get? key = some v → s.toOptions.get? key ≠ some v →
      after.get? key = some (sentValue v)) ∧
    ∀ key, (∀ v, asked.get? key = some v → s.toOptions.get? key = some v) →
      after.get? key = held.get? key := by
  refine ⟨fun key v hv hne => get?_of_ne hstores ?_ hne, fun key hsame => get?_of_eq hstores ?_⟩
  · rw [h.get?_override ht, hv, Option.some_or]
  · rw [h.get?_override ht]
    cases hv : asked.get? key with
    | none => rw [Option.none_or]
    | some v => rw [hsame v hv, Option.some_or]

/-- A setting is read afterwards with a new value that was sent, or as it was read before. -/
theorem settingIn_cases (h : IsRequest asked)
    (ht : Fields.override s.toOptions asked = t.toOptions)
    (hstores : Stores (itemsBetween s t) held after) (key : String) :
    (∃ v, asked.get? key = some v ∧ s.toOptions.get? key ≠ some v ∧
      settingIn after key = some v) ∨
    ((∀ v, asked.get? key = some v → s.toOptions.get? key = some v) ∧
      settingIn after key = settingIn held key) := by
  obtain ⟨hsent, hkept⟩ := h.stored ht hstores
  by_cases hnew : ∃ v, asked.get? key = some v ∧ s.toOptions.get? key ≠ some v
  · obtain ⟨v, hv, hne⟩ := hnew
    have hfits := h.fits _ (Fields.mem_of_get? hv)
    exact Or.inl ⟨v, hv, hne, settingIn_of_sent hfits (hsent key v hv hne)⟩
  · have hsame : ∀ v, asked.get? key = some v → s.toOptions.get? key = some v :=
      fun v hv => Classical.byContradiction fun hne => hnew ⟨v, hv, hne⟩
    exact Or.inr ⟨hsame, settingIn_congr (hkept key hsame)⟩

/-- A request that was made on some settings is met just when nothing was asked, or every setting
that was not sent could be read before and had the value that was asked for. -/
theorem meets_iff (h : IsRequest asked) (ht : Fields.override s.toOptions asked = t.toOptions)
    (hstores : Stores (itemsBetween s t) held after) :
    Meets after asked ↔ asked = [] ∨ ∀ key ∈ optionKeys,
      (∃ v, asked.get? key = some v ∧ s.toOptions.get? key ≠ some v) ∨
      ∃ w, settingIn held key = some w ∧ ∀ v, asked.get? key = some v → w = v := by
  constructor
  · intro hmeets
    by_cases hnone : asked = []
    · exact Or.inl hnone
    · obtain ⟨p, hp⟩ := List.exists_mem_of_ne_nil asked hnone
      obtain ⟨u, hu, -⟩ := hmeets p.1 p.2 ((Fields.get?_eq_some h.nodup).mpr hp)
      refine Or.inr fun key hkey => ?_
      rcases h.settingIn_cases ht hstores key with ⟨v, hv, hne, -⟩ | ⟨-, hsame⟩
      · exact Or.inl ⟨v, hv, hne⟩
      · obtain ⟨w, hw, -⟩ := fits_toOptions u key hkey
        refine Or.inr ⟨w, ?_, fun v hv => ?_⟩
        · rw [← hsame, readOwned_eq_some.mp hu key hkey, hw]
        · obtain ⟨u', hu', hget⟩ := hmeets key v hv
          obtain rfl := Option.some.inj (hu.symm.trans hu')
          exact Option.some.inj (hw.symm.trans hget)
  · rintro (rfl | hall)
    · intro key v hv
      cases hv
    · have hread : ∀ key ∈ optionKeys, ∃ w, settingIn after key = some w ∧
          ∀ v, asked.get? key = some v → w = v := by
        intro key hkey
        rcases h.settingIn_cases ht hstores key with ⟨v, hv, -, hafter⟩ | ⟨hkept, hsame⟩
        · exact ⟨v, hafter, fun v' hv' => Option.some.inj (hv.symm.trans hv')⟩
        · rcases hall key hkey with ⟨v, hv, hne⟩ | ⟨w, hw, hasked⟩
          · exact absurd (hkept v hv) hne
          · exact ⟨w, hsame.trans hw, hasked⟩
      obtain ⟨u, hu⟩ := exists_readOwned fun key hkey => (hread key hkey).imp fun _ => And.left
      intro key v hv
      have hkey : key ∈ optionKeys := h.owned _ (Fields.mem_of_get? hv)
      obtain ⟨w, hw, hasked⟩ := hread key hkey
      exact ⟨u, hu, by rw [← readOwned_eq_some.mp hu key hkey, hw, hasked v hv]⟩

end IsRequest

/-- The bytes of a list of one option, the main switch, that holds a word. -/
def switchText (word : String) : List UInt8 :=
  ("\x7b\"success\": true, \"data\": [\x7b\"key\": \"CheckSensitiveEnabled\", \"value\": \""
    ++ word ++ "\"\x7d]\x7d").toUTF8.toList

set_option maxRecDepth 2000 in
/-- It lists a word that is no truth value, or one that is. -/
theorem lists_switchText {word : String} (h : word = "maybe" ∨ word = "true") :
    Lists [(enabledKey, .text word)] (.answered 200 (switchText word)) := by
  refine ⟨"", [⟨enabledKey, .text word⟩], ?_, fun _ => rfl⟩
  refine Query.envelopeOf_toUTF8 _ (v := .record [("success", .bool true), ("data",
    .list [.record (OptionItem.toFields ⟨enabledKey, .text word⟩)])]) ?_ ?_ rfl
  · rcases h with rfl | rfl <;> decide
  · rcases h with rfl | rfl <;>
      simp only [Json.ofText?, String.reduceAppend, String.reduceToList] <;> rfl

end FilterSettings

namespace Panel

open Dialogue FilterSettings

variable {p : Panel} {s t : FilterSettings}

/-- A panel that shows the settings that it has loaded has nothing to submit. -/
theorem submit_of_nil (hinputs : p.inputs = t.toOptions) (hloaded : p.loaded = s.toOptions)
    (h : itemsBetween s t = []) :
    p.submit =
      (Turn.finish p (.ok (.outcome .unchanged))).after [.warning "Nothing was changed"] := by
  have hchanges : Changes.between p.inputs p.loaded = [] := by
    rw [hinputs, hloaded]
    exact List.map_eq_nil_iff.mp h
  unfold submit
  rw [hchanges]

/-- A panel that shows other settings submits the values that differ. -/
theorem submit_of_ne_nil (hinputs : p.inputs = t.toOptions) (hloaded : p.loaded = s.toOptions)
    (hfree : p.loading = false) (h : itemsBetween s t ≠ []) :
    p.submit =
      { state := { p with loading := true },
        next := .waits (Batch.ofItems (itemsBetween s t)).asks
          (.collecting (Batch.ofItems (itemsBetween s t))) } := by
  have hnodup : p.inputs.names.Nodup := by
    rw [hinputs, names_toOptions]
    exact nodup_optionKeys
  have hitems := Batch.itemsOf_changes hnodup p.loaded
  have hsent : itemsBetween s t =
      (Changes.between p.inputs p.loaded).map fun c => ⟨c.name, sentValue c.new⟩ := by
    rw [hinputs, hloaded, itemsBetween]
  rw [hsent] at h ⊢
  unfold submit
  cases hchanges : Changes.between p.inputs p.loaded with
  | nil => exact absurd (by rw [hchanges, List.map_nil]) h
  | cons first rest =>
    rw [hchanges] at hitems
    simp only [Batch.accept, hfree, hitems, List.isEmpty_map, List.isEmpty_cons,
      Bool.false_eq_true, ite_false]

end Panel

end VoucherDesk
