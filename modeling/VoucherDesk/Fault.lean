import VoucherDesk.Value.Display

/-!
# Faults

A fault is what an operator is told when something is refused. Every fault has a kind,
and the kinds form a tree below the general one; every kind has a code of its own, which
a fault may replace by another code that is not empty. Faults that stem from a reply
carry its status.
-/

namespace VoucherDesk

/-- The kinds of faults. -/
inductive FaultKind where
  | general
  | validation
  | timeWindow
  | fieldFormat
  | inProgress
  | application
  | notFound
  | server
  | transport
  | submission
  | partialFailure
  deriving DecidableEq, Repr

namespace FaultKind

/-- The code of a kind. -/
def code : FaultKind → String
  | .general => "APPLICATION_ERROR"
  | .validation => "VALIDATION_ERROR"
  | .timeWindow => "TIME_WINDOW_INVALID"
  | .fieldFormat => "FIELD_FORMAT_INVALID"
  | .inProgress => "SUBMISSION_IN_PROGRESS"
  | .application => "APPLICATION_ERROR"
  | .notFound => "NOT_FOUND"
  | .server => "SERVER_ERROR"
  | .transport => "TRANSPORT_ERROR"
  | .submission => "SUBMISSION_FAILED"
  | .partialFailure => "PARTIAL_FAILURE"

/-- The codes of the catalogue in its order. -/
def catalogue : List String :=
  [validation, timeWindow, fieldFormat, application, notFound, server, transport, submission,
    partialFailure, inProgress].map code

/-- The kind with the kinds above it, up to the general one. -/
def lineage : FaultKind → List FaultKind
  | .general => [.general]
  | .timeWindow => [.timeWindow, .validation, .general]
  | .fieldFormat => [.fieldFormat, .validation, .general]
  | kind => [kind, .general]

end FaultKind

/-- What a form field fails to be. -/
inductive FieldRule where
  | wholeNumber
  | positive
  | atLeastOne
  | useLimit
  | notNegative
  | worded (text : String)
  deriving DecidableEq, Repr

/-- The wording of a rule. -/
def FieldRule.text : FieldRule → String
  | .wholeNumber => "must be an integer"
  | .positive => "must be positive"
  | .atLeastOne => "must be at least 1"
  | .useLimit => "must be -1 (unlimited) or at least 1"
  | .notNegative => "must not be negative"
  | .worded text => text

/-- A refusal as it is told to the operator. -/
inductive Fault where
  /-- A fault with a message of its own, a code that replaces that of its kind, and a status. -/
  | told (kind : FaultKind) (message : String) (code : Option String) (status : Option Int)
  /-- Both ends of the window are set and the first is not before the last. -/
  | timeWindow (validFrom validUntil : Value)
  /-- A form field does not follow its rule. -/
  | fieldFormat (field : String) (value : Value) (rule : FieldRule)
  /-- Another submission has not ended yet. -/
  | inProgress
  /-- Some of the changed options were refused. -/
  | partialFailure (failed total : Int)

namespace Fault

/-- The kind of a fault. -/
def kind : Fault → FaultKind
  | .told kind .. => kind
  | .timeWindow .. => .timeWindow
  | .fieldFormat .. => .fieldFormat
  | .inProgress => .inProgress
  | .partialFailure .. => .partialFailure

/-- The message of a fault. -/
def message : Fault → String
  | .told _ message _ _ => message
  | .timeWindow .. => "Effective time must be earlier than expiry time"
  | .fieldFormat field value rule =>
    "Invalid value for " ++ field ++ ": " ++ value.display ++ " " ++ rule.text
  | .inProgress => "A submission is already in progress"
  | .partialFailure .. => "Some changes failed to save, please retry"

/-- The code of a fault: its own if it has one that is not empty, else that of its kind. -/
def code (f : Fault) : String :=
  match f with
  | .told kind _ (some code) _ => if code.isEmpty then kind.code else code
  | f => f.kind.code

/-- The status of the reply from which the fault stems. -/
def status : Fault → Option Int
  | .told _ _ _ status => status
  | _ => none

/-- Whether the fault was found before anything was sent. -/
def isValidation (f : Fault) : Bool := f.kind.lineage.contains .validation

/-- The server refused, in its own words. -/
def application (message : String) : Fault := .told .application message none none

/-- Saving failed in a way that the operator may retry. -/
def submission : Fault := .told .submission "Save failed, please retry" none none

end Fault

end VoucherDesk
