import VoucherDesk.Arguments.Reader
import VoucherDesk.Arguments.Help
import VoucherDesk.Filter.FilterSettings
import VoucherDesk.Voucher.Basic

/-!
# Orders

There are three tools: one that creates vouchers, one that edits a voucher, and one for the
word filter. The arguments of a tool make an order, which says what is to be done with which
server and how much of it is logged.
-/

namespace VoucherDesk.Console

open Arguments

/-- What is to be done. -/
inductive Order where
  /-- Creates vouchers from the fields of a form, and keeps their codes in a directory, without
  asking if `keeps`. -/
  | create (fields : Fields) (key : String) (directory : String) (keeps : Bool)
  /-- Changes fields of a voucher. -/
  | edit (id : Int) (fields : Fields)
  /-- Shows the settings of the word filter. -/
  | showFilter
  /-- Shows which words and patterns hit a text of a group. -/
  | checkText (text : String) (group : Value)
  /-- Changes settings of the word filter, the words from a file. -/
  | setFilter (fields : Fields) (wordsFile : Option String)

/-- An order with what it is carried out with; what is absent comes from the settings. -/
structure Invocation where
  server : Option String
  logLevel : String
  order : Order

/-- The tools. -/
inductive ToolName where
  | create
  | edit
  | filter
  deriving DecidableEq, Repr

/-- The argument that names the server. -/
private def serverArgument : Named where
  names := ["--server"]
  field := "server"
  action := .word .plain
  help := "Gateway base URL (overrides QUOTA_ADMIN_API_BASE_URL)"

/-- The argument that names the level of the log. -/
private def logLevelArgument (help : String) : Named where
  names := ["--log-level"]
  field := "log_level"
  action := .word .plain
  help := help

/-- An argument that takes a word. -/
private def word (name field help : String) (kind : WordKind) : Named :=
  { names := [name], field, action := .word kind, help }

/-- An argument that sets a flag. -/
private def flag (name field help : String) (value : Bool) : Named :=
  { names := [name], field, action := .flag value, help }

/-- The tool that creates vouchers. -/
def createTool : Tool where
  parser :=
    { program := "create_redemption.py"
      description := "Create redemption codes via admin API"
      named := [
        serverArgument,
        word "--name" "name" "Code name (default: rendered quota, e.g. $1.00)" .plain,
        word "--quota" "quota" "Quota per code in smallest units (default: 100000)" .plain,
        word "--count" "count" "Number of codes to generate (default: 1)" .plain,
        word "--key" "key" "Custom code content (default: generated by server)" .plain,
        flag "--gift" "gift" "Create a reusable gift code" true,
        word "--max-uses" "max_uses" "Gift code use limit, -1 for unlimited (default: -1)" .plain,
        word "--valid-from" "valid_from" "Unix seconds or ISO datetime; 0 = now" .moment,
        word "--valid-until" "valid_until" "Unix seconds or ISO datetime; 0 = never" .moment,
        word "--output-dir" "output_dir" "Directory for the generated codes file" .plain,
        { names := ["--yes", "-y"], field := "yes", action := .flag true,
          help := "Save generated codes without asking" },
        logLevelArgument "Logging level (default: QUOTA_ADMIN_LOG_LEVEL or INFO)"]
      notes := "Create redemption codes through the admin API.\n\nUsage:\n"
        ++ "    python -m quota_admin.scripts.create_redemption --quota 500000 --count 20\n"
        ++ "    python -m quota_admin.scripts.create_redemption --name launch --quota 5000000"
        ++ "         --gift --max-uses 100 --valid-until 2026-12-31T23:59:59 --yes"
        ++ " --output-dir codes/\n\nEnvironment variables:\n"
        ++ "    QUOTA_ADMIN_API_BASE_URL        - Gateway base URL"
        ++ " (default: http://localhost:3000)\n"
        ++ "    QUOTA_ADMIN_ADMIN_ACCESS_TOKEN  - Admin access token" }

/-- The tool that edits a voucher. -/
def editTool : Tool where
  parser :=
    { program := "edit_redemption.py"
      description := "Edit a redemption code via admin API"
      named := [
        serverArgument,
        { names := ["--id"], field := "id", action := .word .wholeNumber, isRequired := true,
          help := "Redemption code id" },
        word "--name" "name" "" .plain,
        word "--quota" "quota" "" .plain,
        flag "--gift" "is_gift" "Make it a gift code" true,
        flag "--no-gift" "is_gift" "Make it a single-use code" false,
        word "--max-uses" "max_uses" "Gift code use limit, -1 for unlimited" .plain,
        word "--valid-from" "valid_from" "Unix seconds or ISO datetime; 0 = now" .moment,
        word "--valid-until" "valid_until" "Unix seconds or ISO datetime; 0 = never" .moment,
        logLevelArgument ""]
      notes := "Load a redemption code, change some fields and save it.\n\nUsage:\n"
        ++ "    python -m quota_admin.scripts.edit_redemption --id 42 --quota 1000000\n"
        ++ "    python -m quota_admin.scripts.edit_redemption --id 42 --gift --max-uses 10\n"
        ++ "    python -m quota_admin.scripts.edit_redemption --id 42 --valid-until 0" }

/-- The commands of the tool for the word filter, with their help texts. -/
private def filterChoices : List (String × String) :=
  [("show", "Print current settings and word list"), ("set", "Change settings"),
    ("check", "Show which entries match TEXT")]

/-- The tool for the word filter. -/
def filterTool : Tool where
  parser :=
    { program := "sensitive_words.py"
      description := "Sensitive-word filter settings via admin API"
      named := [serverArgument, logLevelArgument ""]
      standing := .command "command" filterChoices
      notes := "Inspect and update the sensitive-word filter settings.\n\nUsage:\n"
        ++ "    python -m quota_admin.scripts.sensitive_words show\n"
        ++ "    python -m quota_admin.scripts.sensitive_words set --enabled --no-prompt\n"
        ++ "    python -m quota_admin.scripts.sensitive_words set --words-file words.txt\n"
        ++ "    python -m quota_admin.scripts.sensitive_words check \"some prompt text\"\n\n"
        ++ "Words file format: one entry per line; prefix a line with "
        ++ "\x60\x60regex:\x60\x60 for a\n"
        ++ "regular expression, e.g. \x60\x60regex:foo.*bar\x60\x60." }
  commands := [
    ("show", { program := "sensitive_words.py show", named := [] }),
    ("set",
      { program := "sensitive_words.py set"
        named := [
          flag "--enabled" "enabled" "" true,
          flag "--disabled" "enabled" "" false,
          flag "--prompt" "prompt" "" true,
          flag "--no-prompt" "prompt" "" false,
          word "--words-file" "words_file" "Replace the word list with this file's contents"
            .path] }),
    ("check",
      { program := "sensitive_words.py check"
        named := [word "--group" "group" "User group, for the exempt-group rule" .plain]
        standing := .word "text" })]

/-- The tool of a name. -/
def ToolName.tool : ToolName → Tool
  | .create => createTool
  | .edit => editTool
  | .filter => filterTool

/-- The text of a value that was given, if it was given as text. -/
private def textIn? (values : Fields) (name : String) : Option String :=
  match values.get? name with
  | some (.text s) => some s
  | _ => none

/-- The given values under the names of fields, in the order of the names. -/
private def chosen (values : Fields) (names : List (String × String)) : Fields :=
  names.filterMap fun (name, field) => (values.get? name).map fun v => (field, v)

/-- The order to create vouchers. -/
def creation (values : Fields) : Order :=
  let entry (name : String) (default : Value) : String × Value :=
    (name, (values.get? name).getD default)
  .create
    [entry "name" (.text ""), entry "quota" (.text "100000"), entry "count" (.text "1"),
      ("is_gift", (values.get? "gift").getD (.bool false)), entry "max_uses" (.text "-1"),
      entry "valid_from" (.text "0"), entry "valid_until" (.text "0")]
    ((textIn? values "key").getD "") ((textIn? values "output_dir").getD "")
    (values.get? "yes").isSome

/-- The order to edit a voucher. -/
def edition (values : Fields) : Order :=
  let id := match values.get? "id" with
    | some (.int n) => n
    | _ => 0
  .edit id <| chosen values <|
    ["name", "quota", "is_gift", "max_uses", "valid_from", "valid_until"].map fun n => (n, n)

/-- The order of a command for the word filter. -/
def filterOrder (command : String) (values : Fields) : Order :=
  if command = "show" then .showFilter
  else if command = "check" then
    .checkText ((textIn? values "text").getD "") ((values.get? "group").getD .null)
  else
    .setFilter
      (chosen values
        [("enabled", FilterSettings.enabledKey), ("prompt", FilterSettings.onPromptKey)])
      (textIn? values "words_file")

/-- Reads the arguments of a tool. -/
def ToolName.invocation (t : ToolName) (texts : List String) :
    Except (Parser × Stop) Invocation := do
  let r ← t.tool.read texts
  let order := match t with
    | .create => creation r.values
    | .edit => edition r.values
    | .filter => filterOrder (r.command.getD "") r.values
  return ⟨textIn? r.values "server", (textIn? r.values "log_level").getD "", order⟩

end VoucherDesk.Console
