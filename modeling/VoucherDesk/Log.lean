import VoucherDesk.Settings.Basic

/-!
# Log entries

An entry has a level, the part of the desk that wrote it, and a message. A program keeps
the entries at or above the level that it was given by name, in any case, or else by its
settings; an unknown name means the level of information.
-/

namespace VoucherDesk

/-- The levels of log entries. -/
inductive LogLevel where
  | debug
  | info
  | warning
  | error
  deriving DecidableEq, Repr

namespace LogLevel

/-- The name of a level. -/
def name : LogLevel → String
  | .debug => "DEBUG"
  | .info => "INFO"
  | .warning => "WARNING"
  | .error => "ERROR"

/-- The weight of a level. -/
def weight : LogLevel → Nat
  | .debug => 10
  | .info => 20
  | .warning => 30
  | .error => 40

/-- The names by which a threshold may be given, with their weights. -/
def thresholds : List (String × Nat) :=
  [("CRITICAL", 50), ("FATAL", 50), ("ERROR", 40), ("WARN", 30), ("WARNING", 30), ("INFO", 20),
    ("DEBUG", 10), ("NOTSET", 0)]

/-- The capital of a letter; two letters beyond ASCII have an ASCII capital. -/
def capital (c : Char) : Char :=
  if c = '\u0131' then 'I' else if c = '\u017f' then 'S' else c.toUpper

/-- The weight below which entries are dropped, from a name or else from the settings. -/
def threshold (s : Settings) (given : String) : Nat :=
  let word := if given.isEmpty then s.logLevel else given
  (thresholds.lookup (word.map capital)).getD 20

end LogLevel

/-- The parts of the desk that write log entries. -/
inductive LogSource where
  | client
  | form
  | notifier
  | submission
  | words
  | panel
  | store
  deriving DecidableEq, Repr

/-- The name under which a part of the desk writes. -/
def LogSource.name : LogSource → String
  | .client => "quota_admin.services.api_client"
  | .form => "quota_admin.services.redemption_form"
  | .notifier => "quota_admin.services.notifier"
  | .submission => "quota_admin.services.settings_submission"
  | .words => "quota_admin.services.sensitive_words"
  | .panel => "quota_admin.services.sensitive_words_panel"
  | .store => "quota_admin.services.option_store"

/-- A log entry. -/
structure LogEntry where
  level : LogLevel
  source : LogSource
  message : String
  deriving DecidableEq, Repr

namespace LogEntry

/-- The message up to its first line break. -/
def firstLine (e : LogEntry) : String :=
  String.ofList (e.message.toList.takeWhile (· != '\n'))

/-- The layout of the lines that a program writes for its entries. -/
def layout : String :=
  "%(asctime)s - %(name)s - %(levelname)s - %(module)s.%(funcName)s:%(lineno)d - %(message)s"

end LogEntry

end VoucherDesk
