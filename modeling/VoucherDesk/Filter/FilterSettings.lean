import VoucherDesk.Reading.Lenient
import VoucherDesk.Value.Equality

/-!
# Settings of the word filter

Three options govern the word filter: whether it is on, whether it looks at prompts, and
its word list as one text. Each option has a name on the server and a name of its own, and
may be read under either; the name on the server goes first.
-/

namespace VoucherDesk

open Reading

/-- The settings of the word filter. -/
structure FilterSettings where
  enabled : Bool := false
  onPrompt : Bool := false
  words : String := ""
  deriving DecidableEq, Repr

namespace FilterSettings

/-- The option that switches the filter on. -/
def enabledKey : String := "CheckSensitiveEnabled"

/-- The option that makes the filter look at prompts. -/
def onPromptKey : String := "CheckSensitiveOnPromptEnabled"

/-- The option that holds the word list. -/
def wordsKey : String := "SensitiveWords"

/-- The options of the filter in order. -/
def optionKeys : List String := [enabledKey, onPromptKey, wordsKey]

/-- Reads a setting under its option key or else under its own name. -/
private def either (fields : Fields) (key name : String) (default : α)
    (read : Value → Except Mismatch α) : Checked α :=
  if (fields.get? key).isSome then field fields key default read
  else field fields name default read

/-- Reads the settings from options. -/
def ofFields (fields : Fields) : Checked FilterSettings := do
  let (enabled, onPrompt, words) ←
    both (either fields enabledKey "check_sensitive_enabled" false Reading.bool) <|
    both (either fields onPromptKey "check_sensitive_on_prompt_enabled" false Reading.bool) <|
    either fields wordsKey "sensitive_words" "" Reading.text
  return ⟨enabled, onPrompt, words⟩

/-- Reads the settings from a value. -/
def read (v : Value) : Checked FilterSettings := do
  let fields ← fieldsOf v
  ofFields fields

/-- The settings as options. -/
def toOptions (s : FilterSettings) : Fields :=
  [(enabledKey, .bool s.enabled), (onPromptKey, .bool s.onPrompt), (wordsKey, .text s.words)]

/-- The settings under their own names. -/
def toFields (s : FilterSettings) : Fields :=
  [("check_sensitive_enabled", .bool s.enabled),
    ("check_sensitive_on_prompt_enabled", .bool s.onPrompt), ("sensitive_words", .text s.words)]

/-- Whether a prompt of a group is checked: both switches are on and the group is not exempt; an
exempt group that is empty exempts nobody. -/
def checksPrompt (s : FilterSettings) (group : Value) (exempt : Value) : Bool :=
  if exempt.isTruthy && group.same exempt then false else s.enabled && s.onPrompt

end FilterSettings

end VoucherDesk
