import VoucherDesk.Reading.Lenient
import VoucherDesk.Settings.Assignments

/-!
# Settings

The settings of the desk come from environment variables, then from the settings file,
then from defaults. Names of variables match in any case. All values that cannot be read
are reported together, in the order of the settings.
-/

namespace VoucherDesk

/-- The settings of the desk. -/
structure Settings where
  appName : String := "quota-admin"
  apiBaseUrl : String := "http://localhost:3000"
  adminAccessToken : String := ""
  requestTimeoutSeconds : Double := .ofDecimal false 30 0
  quotaPerUnit : Int := 500000
  displayInCurrency : Bool := true
  quotaDisplayDigits : Int := 2
  exportDir : String := "."
  logLevel : String := "INFO"
  sensitiveExemptGroup : String := ""

namespace Settings

/-- What every variable of the desk begins with. -/
def variableStart : String := "quota_admin_"

/-- The variables by their names in lower case; the last of several spellings counts. -/
private def lowered (pairs : List (String × Option String)) : List (String × Option String) :=
  pairs.reverse.map fun (name, value) => (name.map Char.toLower, value)

/-- The text set for a setting in the environment or else in the file. -/
def source (env : List (String × String)) (file : String) (name : String) : Option String :=
  let key := variableStart ++ name
  let inEnv := (lowered (env.map fun (n, v) => (n, some v))).lookup key
  let inFile := (lowered (fileValues env file)).lookup key
  (inEnv.bind id).or (inFile.bind id)

open Reading in
/-- The settings that an environment and the text of a settings file give. -/
def read (env : List (String × String)) (file : String) : Except Failure Settings :=
  let defaults : Settings := {}
  let setting {α : Type} (name : String) (default : α) (reader : String → Except Mismatch α) :
      Checked α :=
    match source env file name with
    | some s => located name (reader s)
    | none => .ok default
  let plain (name default : String) : Checked String := setting name default .ok
  let whole (name : String) (default : Int) : Checked Int :=
    setting name default fun s => Reading.int (.text s)
  let truth (name : String) (default : Bool) : Checked Bool :=
    setting name default fun s => Reading.bool (.text s)
  let checked :=
    both (plain "app_name" defaults.appName) <|
    both (plain "api_base_url" defaults.apiBaseUrl) <|
    both (plain "admin_access_token" defaults.adminAccessToken) <|
    both (setting "request_timeout_seconds" defaults.requestTimeoutSeconds doubleOfText) <|
    both (whole "quota_per_unit" defaults.quotaPerUnit) <|
    both (truth "display_in_currency" defaults.displayInCurrency) <|
    both (whole "quota_display_digits" defaults.quotaDisplayDigits) <|
    both (plain "export_dir" defaults.exportDir) <|
    both (plain "log_level" defaults.logLevel) <|
    plain "sensitive_exempt_group" defaults.sensitiveExemptGroup
  match checked with
  | .ok (a, b, c, d, e, f, g, h, i, j) => .ok ⟨a, b, c, d, e, f, g, h, i, j⟩
  | .error problems => .error (.unreadable problems)

/-- The settings by name. -/
def toFields (s : Settings) : Fields :=
  [("app_name", .text s.appName), ("api_base_url", .text s.apiBaseUrl),
    ("admin_access_token", .text s.adminAccessToken),
    ("request_timeout_seconds", .double s.requestTimeoutSeconds),
    ("quota_per_unit", .int s.quotaPerUnit), ("display_in_currency", .bool s.displayInCurrency),
    ("quota_display_digits", .int s.quotaDisplayDigits), ("export_dir", .text s.exportDir),
    ("log_level", .text s.logLevel), ("sensitive_exempt_group", .text s.sensitiveExemptGroup)]

end Settings

end VoucherDesk
