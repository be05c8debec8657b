import VoucherDesk.Console.Order
import VoucherDesk.Proofs.Arguments.Reader
import VoucherDesk.Proofs.Filter.Request

/-!
# What orders ask for

The flags of the command that changes the word filter give truth values and nothing else, so
that its arguments, with the words of its file, always make a request.
-/

namespace VoucherDesk.Console

open Arguments FilterSettings

/-- Whether an argument sets a flag. -/
def setsFlag (n : Named) : Bool :=
  match n.action with
  | .flag _ => true
  | _ => false

/-- Whether nothing but flags sets a field of a command line. -/
def isSwitch (p : Parser) (field : String) : Bool :=
  (p.allNamed.all fun n => n.field != field || setsFlag n) &&
    match p.standing with
    | .word other => other != field
    | _ => true

/-- A field that only flags set has a truth value. -/
theorem exists_bool_of_gives {p : Parser} {field : String} {v : Value}
    (hswitch : isSwitch p field = true) (h : p.Gives field v) : ∃ b, v = .bool b := by
  obtain ⟨hnamed, hstanding⟩ := Bool.and_eq_true_iff.mp hswitch
  cases h with
  | named n mem sets gives =>
    have hflag : setsFlag n = true := by simpa [sets] using List.all_eq_true.mp hnamed n mem
    unfold setsFlag at hflag
    unfold Named.Gives at gives
    split at hflag
    · next b haction =>
      rw [haction] at gives
      exact ⟨b, gives⟩
    · cases hflag
  | word s standing value => simp [standing] at hstanding

/-- The two switches of the word filter have truth values wherever they are given. -/
theorem exists_bool_of_read {texts : List String} {r : Reading} (h : filterTool.read texts = .ok r)
    {field : String} (hfield : field ∈ ["enabled", "prompt"]) {v : Value}
    (hv : r.values.get? field = some v) : ∃ b, v = .bool b := by
  have hswitch : ∀ field ∈ ["enabled", "prompt"], isSwitch filterTool.parser field = true ∧
      ∀ c ∈ filterTool.commands, isSwitch c.2 field = true := by decide
  obtain ⟨hown, hcommands⟩ := hswitch field hfield
  rcases Tool.read_explains h _ (Fields.mem_of_get? hv) with hgives | ⟨c, hc, hgives⟩
  · exact exists_bool_of_gives hown hgives
  · exact exists_bool_of_gives (hcommands c hc) hgives

/-- What an order to change the word filter requests, with the words of its file if it names one;
nothing if the file cannot be read. -/
def requestOf (files : FileTree) (fields : Fields) : Option String → Option Fields
  | none => some fields
  | some path =>
    match files.readText (FileTree.pathParts path) with
    | .ok (some words) => some (fields ++ [(wordsKey, .text words)])
    | _ => none

/-- The flags of an order to change the word filter are switches with truth values. -/
theorem flags_of_invocation {texts : List String} {server : Option String} {level : String}
    {fields : Fields} {wordsFile : Option String}
    (h : ToolName.filter.invocation texts = .ok ⟨server, level, .setFilter fields wordsFile⟩) :
    fields.names.Sublist [enabledKey, onPromptKey] ∧ ∀ p ∈ fields, ∃ b, p.2 = .bool b := by
  obtain ⟨r, hread, h⟩ := bind_eq_ok.mp h
  have horder : filterOrder (r.command.getD "") r.values = .setFilter fields wordsFile := by
    injection h with h
    exact congrArg Invocation.order h
  unfold filterOrder at horder
  split at horder
  · cases horder
  · split at horder
    · cases horder
    · injection horder with hfields
      obtain rfl : ([("enabled", enabledKey), ("prompt", onPromptKey)].filterMap fun p =>
        (r.values.get? p.1).map fun v => (p.2, v)) = fields := hfields
      have hbool (field : String) (hfield : field ∈ ["enabled", "prompt"]) (v : Value) :=
        exists_bool_of_read hread hfield (v := v)
      have hfirst := hbool "enabled" (by decide)
      have hsecond := hbool "prompt" (by decide)
      cases henabled : r.values.get? "enabled" <;> cases hprompt : r.values.get? "prompt" <;>
        simp_all [Fields.names]

/-- A request has the flags of its order, and the words of a file after them if there is one. -/
theorem requestOf_cases {files : FileTree} {fields asked : Fields} {wordsFile : Option String}
    (h : requestOf files fields wordsFile = some asked) :
    asked = fields ∨ ∃ words, asked = fields ++ [(wordsKey, .text words)] := by
  unfold requestOf at h
  split at h
  · cases h
    exact Or.inl rfl
  · split at h
    · next words _ =>
      cases h
      exact Or.inr ⟨words, rfl⟩
    · cases h

/-- The arguments of an order to change the word filter make a request. -/
theorem isRequest_of_invocation {texts : List String} {server : Option String} {level : String}
    {fields asked : Fields} {wordsFile : Option String} {files : FileTree}
    (h : ToolName.filter.invocation texts = .ok ⟨server, level, .setFilter fields wordsFile⟩)
    (hasked : requestOf files fields wordsFile = some asked) : IsRequest asked := by
  obtain ⟨hnames, hbool⟩ := flags_of_invocation h
  have hswitch : ∀ p ∈ fields, p.1 ∈ [enabledKey, onPromptKey] :=
    fun p hp => hnames.subset (List.mem_map_of_mem hp)
  have howned : ∀ p ∈ fields, p.1 ∈ optionKeys ∧ Fits p.1 p.2 := by
    intro p hp
    have hne : p.1 ≠ wordsKey := by
      intro heq
      have hkey := heq ▸ hswitch p hp
      revert hkey
      decide
    refine ⟨List.mem_append_left [wordsKey] (hswitch p hp), ?_⟩
    rw [Fits, if_neg hne]
    exact hbool p hp
  rcases requestOf_cases hasked with rfl | ⟨words, rfl⟩
  · exact ⟨fun p hp => (howned p hp).1, fun p hp => (howned p hp).2, hnames.nodup (by decide)⟩
  · have hkey : wordsKey ∈ optionKeys := by decide
    have hwords : ∀ p ∈ [(wordsKey, Value.text words)], p.1 ∈ optionKeys ∧ Fits p.1 p.2 :=
      List.forall_mem_singleton.mpr ⟨hkey, words, rfl⟩
    have hall := List.forall_mem_append.mpr ⟨howned, hwords⟩
    refine ⟨fun p hp => (hall p hp).1, fun p hp => (hall p hp).2, ?_⟩
    have hsublist : (Fields.names (fields ++ [(wordsKey, .text words)])).Sublist optionKeys := by
      rw [Fields.names, List.map_append]
      exact hnames.append (List.Sublist.refl [wordsKey])
    exact hsublist.nodup nodup_optionKeys

section Switch

/-- The flag that switches the word filter on or off. -/
def switchFlag (b : Bool) : String := if b then "--enabled" else "--disabled"

variable (b : Bool)

/-- It begins with a hyphen. -/
theorem startsWith_switchFlag : (switchFlag b).startsWith "-" = true := by
  cases b <;> simp [switchFlag]

/-- Before the command it is the name of no argument. -/
theorem markOf_switchFlag :
    markOf filterTool.parser (switchFlag b) =
      .ok (.named { named := none, name := switchFlag b }) := by
  have hcut : cutAtEquals (switchFlag b) = (switchFlag b, none) := by cases b <;> rfl
  have hlookup : filterTool.parser.allNames.lookup (switchFlag b) = none := by cases b <;> rfl
  have hnumber : isNegativeNumber (switchFlag b) = false := by cases b <;> decide +kernel
  have hblank : (switchFlag b).toList.contains ' ' = false := by cases b <;> rfl
  have hcandidates : candidates filterTool.parser (switchFlag b) = [] := by
    have hnone : ∀ b, ∀ n ∈ filterTool.parser.allNames,
        ¬ (switchFlag b).toList <+: n.1.toList := by decide
    obtain ⟨cs, hcs⟩ : ∃ cs, (switchFlag b).toList = '-' :: '-' :: cs := by
      cases b <;> exact ⟨_, rfl⟩
    simp only [candidates, hcs]
    rw [List.map_eq_nil_iff, List.filter_eq_nil_iff, hcut]
    simp only [String.startsWith_string_iff]
    exact hnone b
  exact markOf_of_unknown (startsWith_switchFlag b) (by cases b <;> decide) hlookup hcut hcandidates
    hnumber hblank

/-- All texts from the command on are left to it. -/
theorem read_set_switchFlag :
    filterTool.parser.read ["set", switchFlag b] =
      .ok { command := some ["set", switchFlag b] } := by
  have hne : switchFlag b ≠ "--" := by cases b <;> decide
  have hset : markOf filterTool.parser "set" = .ok .plain := by simp [markOf]
  have hmarks : markAll filterTool.parser ["set", switchFlag b] =
      .ok [("set", .plain),
        (switchFlag b, .named { named := none, name := switchFlag b })] :=
    markAll_cons (by decide) hset (markAll_cons hne (markOf_switchFlag b) rfl)
  unfold Parser.read
  rw [hmarks]
  rfl

/-- The command reads its truth value. -/
theorem read_switchFlag {p : Parser} (hp : filterTool.commands.lookup "set" = some p) :
    p.read [switchFlag b] = .ok { values := [("enabled", .bool b)] } := by
  have hne : switchFlag b ≠ "--" := by cases b <;> decide
  obtain ⟨n, hn, hflag⟩ : ∃ n, p.allNames.lookup (switchFlag b) = some n ∧
      n = { names := [switchFlag b], field := "enabled", action := .flag b } := by
    cases hp
    cases b <;> exact ⟨_, rfl, rfl⟩
  have hmarks : markAll p [switchFlag b] =
      .ok [(switchFlag b, .named { named := some n, name := switchFlag b })] :=
    markAll_cons hne (markOf_of_lookup (startsWith_switchFlag b) hn) rfl
  unfold Parser.read
  rw [hmarks, hflag]
  cases hp
  rfl

/-- The command with the flag is the order to switch the filter. -/
theorem invocation_switchFlag :
    ToolName.filter.invocation ["set", switchFlag b] =
      .ok ⟨none, "", .setFilter [(enabledKey, .bool b)] none⟩ := by
  have hread : filterTool.read ["set", switchFlag b] =
      .ok { command := some "set", values := [("enabled", .bool b)] } := by
    obtain ⟨p, hp⟩ : ∃ p, filterTool.commands.lookup "set" = some p := ⟨_, rfl⟩
    exact Tool.read_of_command (read_set_switchFlag b) rfl hp (read_switchFlag b hp)
  unfold ToolName.invocation
  rw [show ToolName.filter.tool = filterTool from rfl, hread]
  rfl

end Switch

end VoucherDesk.Console
