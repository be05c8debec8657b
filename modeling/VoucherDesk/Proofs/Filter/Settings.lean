import VoucherDesk.Proofs.Failure
import VoucherDesk.Proofs.Options.Panel
import VoucherDesk.Proofs.Reading.Lenient

/-!
# Reading the settings of the word filter

The settings are read from options one by one, each under its key, with a default where it is
absent: all of them together can be read just when each can. A value that fits its setting is
read as it was sent.
-/

namespace VoucherDesk

namespace FilterSettings

open Reading

/-- A property of all settings is one of each. -/
theorem forall_optionKeys {P : String → Prop} :
    (∀ key ∈ optionKeys, P key) ↔ P enabledKey ∧ P onPromptKey ∧ P wordsKey := by
  simp only [optionKeys, List.forall_mem_cons, List.not_mem_nil, false_imp_iff, implies_true,
    and_true]

/-- The value of one setting in options, if it can be read; an absent one has its default. -/
def settingIn (options : Fields) (key : String) : Option Value :=
  match options.get? key with
  | none => ({} : FilterSettings).toOptions.get? key
  | some v =>
    if key = wordsKey then (Reading.text v).toOption.map .text
    else (Reading.bool v).toOption.map .bool

/-- What is read of a setting depends on nothing but what is found under its key. -/
theorem settingIn_congr {options others : Fields} {key : String}
    (h : options.get? key = others.get? key) : settingIn options key = settingIn others key := by
  simp only [settingIn, h]

variable {options : Fields} {s : FilterSettings} {key : String}

/-- Settings are read by the keys of the options alone where their own names do not occur. -/
theorem ofFields_eq_ok (hnames : ∀ name ∈ ({} : FilterSettings).toFields.names,
      options.get? name = none) :
    ofFields options = .ok s ↔
      field options enabledKey false Reading.bool = .ok s.enabled ∧
      field options onPromptKey false Reading.bool = .ok s.onPrompt ∧
      field options wordsKey "" Reading.text = .ok s.words := by
  have heither {α : Type} (key name : String) (default : α) (read : Value → Except Mismatch α)
      (hname : name ∈ ({} : FilterSettings).toFields.names) :
      (if (options.get? key).isSome then field options key default read
        else field options name default read) = field options key default read := by
    cases hkey : options.get? key with
    | some v => rfl
    | none => simp [field, hkey, hnames name hname]
  have hofFields : ofFields options =
      (both (if (options.get? enabledKey).isSome then field options enabledKey false Reading.bool
          else field options "check_sensitive_enabled" false Reading.bool) <|
        both (if (options.get? onPromptKey).isSome then field options onPromptKey false Reading.bool
          else field options "check_sensitive_on_prompt_enabled" false Reading.bool) <|
        if (options.get? wordsKey).isSome then field options wordsKey "" Reading.text
          else field options "sensitive_words" "" Reading.text) >>=
      fun t => .ok ⟨t.1, t.2.1, t.2.2⟩ := rfl
  rw [hofFields, heither _ _ _ _ (by decide), heither _ _ _ _ (by decide),
    heither _ _ _ _ (by decide), bind_eq_ok]
  obtain ⟨enabled, onPrompt, words⟩ := s
  constructor
  · rintro ⟨⟨a, b, c⟩, hboth, hread⟩
    obtain ⟨ha, hrest⟩ := both_eq_ok.mp hboth
    obtain ⟨hb, hc⟩ := both_eq_ok.mp hrest
    cases hread
    exact ⟨ha, hb, hc⟩
  · rintro ⟨ha, hb, hc⟩
    exact ⟨(enabled, onPrompt, words), both_eq_ok.mpr ⟨ha, both_eq_ok.mpr ⟨hb, hc⟩⟩, rfl⟩

/-- A switch in options is read as the truth value that stands there, or its default. -/
theorem settingIn_switch {b : Bool} (hkey : key ≠ wordsKey)
    (hdefault : ({} : FilterSettings).toOptions.get? key = some (.bool false)) :
    (match options.get? key with
      | none => some false
      | some v => (Reading.bool v).toOption) = some b ↔ settingIn options key = some (.bool b) := by
  unfold settingIn
  cases options.get? key with
  | none => simp [hdefault]
  | some v => simp [hkey]

/-- The word list in options is read as the text that stands there, or its default. -/
theorem settingIn_words {words : String} :
    (match options.get? wordsKey with
      | none => some ""
      | some v => (Reading.text v).toOption) = some words ↔
        settingIn options wordsKey = some (.text words) := by
  have hdefault : ({} : FilterSettings).toOptions.get? wordsKey = some (.text "") := rfl
  unfold settingIn
  cases options.get? wordsKey with
  | none => simp [hdefault]
  | some v => simp

/-- The settings in options are read just when each of them is. -/
theorem readOwned_eq_some :
    Panel.readOwned options = some s ↔
      ∀ key ∈ optionKeys, settingIn options key = s.toOptions.get? key := by
  have howned (key : String) : (Panel.owned options).get? key =
      if key ∈ optionKeys then options.get? key else none :=
    Fields.get?_filterMap options optionKeys key
  have hnames : ∀ name ∈ ({} : FilterSettings).toFields.names,
      (Panel.owned options).get? name = none := by
    intro name hname
    refine (howned name).trans (if_neg ?_)
    revert name
    decide
  have htoOption : Panel.readOwned options = some s ↔ ofFields (Panel.owned options) = .ok s := by
    unfold Panel.readOwned
    cases ofFields (Panel.owned options) <;> simp [Except.toOption]
  rw [htoOption, ofFields_eq_ok hnames, field_eq_ok, field_eq_ok, field_eq_ok, howned, howned,
    howned, if_pos (by decide), if_pos (by decide), if_pos (by decide)]
  rw [forall_optionKeys]
  exact and_congr (settingIn_switch (by decide) rfl)
    (and_congr (settingIn_switch (by decide) rfl) settingIn_words)

/-- Whether a value is one that a setting can have: a text for the word list, a truth value for a
switch. -/
def Fits (key : String) (v : Value) : Prop :=
  if key = wordsKey then ∃ words, v = .text words else ∃ b, v = .bool b

/-- Every setting has a value that fits it. -/
theorem fits_toOptions (s : FilterSettings) :
    ∀ key ∈ optionKeys, ∃ v, s.toOptions.get? key = some v ∧ Fits key v :=
  forall_optionKeys.mpr ⟨⟨_, rfl, _, rfl⟩, ⟨_, rfl, _, rfl⟩, ⟨_, rfl, _, rfl⟩⟩

/-- What is read of a setting fits it. -/
theorem fits_settingIn {v : Value} (hkey : key ∈ optionKeys) (h : settingIn options key = some v) :
    Fits key v := by
  unfold settingIn at h
  split at h
  · obtain ⟨w, hw, hfits⟩ := fits_toOptions {} key hkey
    exact Option.some.inj (h.symm.trans hw) ▸ hfits
  · unfold Fits
    split at h
    · next hwords =>
      obtain ⟨words, -, hv⟩ := Option.map_eq_some_iff.mp h
      rw [if_pos hwords]
      exact ⟨words, hv.symm⟩
    · next hswitch =>
      obtain ⟨b, -, hv⟩ := Option.map_eq_some_iff.mp h
      rw [if_neg hswitch]
      exact ⟨b, hv.symm⟩

/-- Values that fit the settings make settings. -/
theorem exists_settings {value : String → Option Value}
    (h : ∀ key ∈ optionKeys, ∃ v, value key = some v ∧ Fits key v) :
    ∃ s : FilterSettings, ∀ key ∈ optionKeys, value key = s.toOptions.get? key := by
  obtain ⟨⟨_, henabled, enabled, rfl⟩, ⟨_, honPrompt, onPrompt, rfl⟩, ⟨_, hwords, words, rfl⟩⟩ :=
    forall_optionKeys.mp h
  exact ⟨⟨enabled, onPrompt, words⟩, forall_optionKeys.mpr ⟨henabled, honPrompt, hwords⟩⟩

/-- Where every setting can be read, all of them can be read together. -/
theorem exists_readOwned (h : ∀ key ∈ optionKeys, ∃ v, settingIn options key = some v) :
    ∃ s, Panel.readOwned options = some s := by
  obtain ⟨s, hs⟩ := exists_settings fun key hkey =>
    (h key hkey).imp fun v hv => ⟨hv, fits_settingIn hkey hv⟩
  exact ⟨s, readOwned_eq_some.mpr hs⟩

/-- A truth value is read as it was sent. -/
theorem bool_sentValue (b : Bool) : Reading.bool (sentValue (.bool b)) = .ok b := by
  cases b with
  | true => decide +kernel
  | false => decide +kernel

/-- The value of a setting is read as it was sent. -/
theorem settingIn_of_sent {v : Value} (hfits : Fits key v)
    (h : options.get? key = some (sentValue v)) : settingIn options key = some v := by
  unfold settingIn
  rw [h]
  unfold Fits at hfits
  split at hfits
  · next hwords =>
    obtain ⟨words, rfl⟩ := hfits
    simp [sentValue, hwords, Reading.text, Except.toOption]
  · next hswitch =>
    obtain ⟨b, rfl⟩ := hfits
    simp [bool_sentValue, hswitch, Except.toOption]

/-- Truth values are equal just when they are the same. -/
theorem same_bool (a b : Bool) : (Value.bool a).same (.bool b) = (a == b) := by
  cases a <;> cases b <;> rfl

/-- Values that fit the same setting are equal just when they are the same. -/
theorem Fits.same_iff {v w : Value} (hv : Fits key v) (hw : Fits key w) :
    v.same w = true ↔ v = w := by
  unfold Fits at hv hw
  split at hv
  · next hwords =>
    rw [if_pos hwords] at hw
    obtain ⟨⟨a, rfl⟩, ⟨b, rfl⟩⟩ := And.intro hv hw
    simp [Value.same]
  · next hswitch =>
    rw [if_neg hswitch] at hw
    obtain ⟨⟨a, rfl⟩, ⟨b, rfl⟩⟩ := And.intro hv hw
    simp [same_bool]

/-- Settings have one value for each key, in the order of the keys. -/
@[simp] theorem names_toOptions (s : FilterSettings) : s.toOptions.names = optionKeys := rfl

/-- Settings with the same values are the same. -/
theorem toOptions_ext {t : FilterSettings}
    (h : ∀ key ∈ optionKeys, s.toOptions.get? key = t.toOptions.get? key) : s = t := by
  obtain ⟨henabled, honPrompt, hwords⟩ := forall_optionKeys.mp h
  obtain ⟨enabled, onPrompt, words⟩ := s
  have henabled : some (Value.bool enabled) = some (.bool t.enabled) := henabled
  have honPrompt : some (Value.bool onPrompt) = some (.bool t.onPrompt) := honPrompt
  have hwords : some (Value.text words) = some (.text t.words) := hwords
  cases henabled
  cases honPrompt
  cases hwords
  rfl

/-- No two settings have the same key. -/
theorem nodup_optionKeys : optionKeys.Nodup := by decide

/-- A setting has a value that fits it. -/
theorem fits_of_get? {v : Value} (h : s.toOptions.get? key = some v) : Fits key v := by
  have hkey : key ∈ s.toOptions.names := Fields.isSome_get?.mp (Option.isSome_of_eq_some h)
  obtain ⟨w, hw, hfits⟩ := fits_toOptions s key hkey
  exact Option.some.inj (hw.symm.trans h) ▸ hfits

end FilterSettings

end VoucherDesk
