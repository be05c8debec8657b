import VoucherDesk.Log

/-!
# Notices

A notice tells the operator that something succeeded, needs attention or failed. Every
notice is logged; on a console, successes and warnings go to the standard output, errors to
the standard error, and all but successes say what they are.
-/

namespace VoucherDesk

/-- The kinds of notices. -/
inductive NoticeKind where
  | success
  | warning
  | error
  deriving DecidableEq, Repr

/-- The name of a kind. -/
def NoticeKind.name : NoticeKind → String
  | .success => "success"
  | .warning => "warning"
  | .error => "error"

/-- What the operator is told. -/
structure Notice where
  kind : NoticeKind
  message : String
  deriving DecidableEq, Repr

/-- The streams of a console. -/
inductive Stream where
  | output
  | error
  deriving DecidableEq, Repr

namespace Notice

/-- The entry that records a notice. -/
def logged (n : Notice) : LogEntry :=
  let level := match n.kind with
    | .success => .info
    | .warning => .warning
    | .error => .error
  ⟨level, .notifier, n.message⟩

/-- The stream to which a console writes a notice. -/
def stream (n : Notice) : Stream :=
  match n.kind with
  | .error => .error
  | _ => .output

/-- The line that a console writes for a notice. -/
def line (n : Notice) : String :=
  match n.kind with
  | .success => n.message
  | .warning => "Warning: " ++ n.message
  | .error => "Error: " ++ n.message

end Notice

end VoucherDesk
