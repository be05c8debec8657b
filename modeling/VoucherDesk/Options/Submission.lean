import VoucherDesk.Options.Batch

/-!
# Submissions of options

A submission sends one batch at a time and, once the batch is saved, calls the refresh hook
if there is one. It is loading from the start of the batch until the hook has ended.
-/

namespace VoucherDesk

open Dialogue

/-- The state of the submissions of options. -/
structure Submission where
  /-- Whether there is a refresh hook. -/
  refreshes : Bool
  loading : Bool := false
  deriving DecidableEq, Repr

namespace Submission

/-- What is submitted: keys and the current values. -/
structure Call where
  keys : List Value
  current : Fields

/-- Where a submission waits. -/
inductive Stage where
  /-- For the replies of its batch. -/
  | collecting (b : Batch)
  /-- For its turn, all replies being there. -/
  | settling (b : Batch)
  /-- For the end of the refresh hook. -/
  | refreshing

/-- A turn of a submission. -/
abbrev SubmissionTurn := Turn Submission Stage Outcome

/-- Ends a submission and lets the next one in. -/
def finish (s : Submission) (r : Except Failure Outcome) : SubmissionTurn :=
  .finish { s with loading := false } r

/-- The first turn of a submission. -/
def begin (s : Submission) (call : Call) : SubmissionTurn :=
  match Batch.accept s.loading call.keys call.current with
  | .ends effects r => (Turn.finish s r).after effects
  | .sends b => { state := { s with loading := true }, next := .waits b.asks (.collecting b) }

/-- Calls the refresh hook after a saved batch, if there is one. -/
def saved (s : Submission) : SubmissionTurn :=
  if s.refreshes then .waitFor s (.hook .refresh []) .refreshing else s.finish (.ok .saved)

/-- Ends a submission with the end of the refresh hook. -/
def refreshed (s : Submission) (r : Except Failure Value) : SubmissionTurn :=
  let (effects, outcome) := Batch.afterRefresh (r.map fun _ => ())
  (s.finish outcome).after effects

/-- The next turn of a submission. -/
def resume (s : Submission) : Stage → Answer → SubmissionTurn
  | .collecting b, .reply place r => b.collect s .collecting .settling place r
  | .settling b, .resumed => b.settle s.finish s.saved
  | .refreshing, .ended r => s.refreshed r
  | stage, _ => { state := s, next := .waits [] stage }

/-- The submissions of options. -/
def controller : Controller Submission Call Stage Outcome where
  begin := begin
  resume := resume
  remaining
    | .collecting b => b.missing + 2
    | .settling _ => 2
    | .refreshing => 1

end Submission

end VoucherDesk
