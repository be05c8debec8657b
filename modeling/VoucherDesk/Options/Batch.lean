import VoucherDesk.Changes
import VoucherDesk.Dialogue.Turn

/-!
# Batches of options

Changed options are saved as a batch, one query for each, and the replies come in any order.
A batch is settled when all replies are there, and only their places in the batch count. The
first failure decides: a fault means that saving failed, anything else goes through to the
caller. Without failures the refusals decide: the refusal of a single option is told in the
words of the server, one among several options in words of our own. Without refusals the
batch is saved.
-/

namespace VoucherDesk

open Dialogue

/-- How a submission of options ends. -/
inductive Outcome where
  | saved
  | unchanged
  | failed
  | partly
  | error
  | busy
  deriving DecidableEq, Repr

/-- The word for an outcome. -/
def Outcome.word : Outcome → String
  | .saved => "saved"
  | .unchanged => "unchanged"
  | .failed => "failed"
  | .partly => "partial"
  | .error => "error"
  | .busy => "busy"

/-- The options of a batch with the replies that are there. -/
structure Batch where
  items : List OptionItem
  replies : List (Option Reply)

namespace Batch

/-- A batch without replies. -/
def ofItems (items : List OptionItem) : Batch := ⟨items, items.map fun _ => none⟩

/-- The queries of a batch in order. -/
def asks (b : Batch) : List Ask := b.items.map fun item => .query (.storeOption item)

/-- The batch with the reply at a place, if none is there yet. -/
def put (b : Batch) (place : Nat) (r : Reply) : Batch :=
  match b.replies[place]? with
  | some none => { b with replies := b.replies.set place (some r) }
  | _ => b

/-- Whether all replies are there. -/
def isComplete (b : Batch) : Bool := b.replies.all Option.isSome

/-- How many replies are missing. -/
def missing (b : Batch) : Nat := b.replies.countP Option.isNone

/-- The envelopes and failures of a batch under the names of its options. -/
def results (b : Batch) : List (String × Except Failure Envelope) :=
  (b.items.zip b.replies).filterMap fun (item, r) =>
    r.map fun r => (item.key, (Query.storeOption item).envelopeOf r)

/-- What a submission does with a list of keys. -/
inductive Admission where
  /-- It ends at once. -/
  | ends (effects : List Effect) (r : Except Failure Outcome)
  /-- It sends a batch. -/
  | sends (b : Batch)

/-- The option of a key as it is sent. -/
def itemOf (current : Fields) : Value → Except Failure OptionItem
  | .text name =>
    match current.get? name with
    | some v => .ok ⟨name, sentValue v⟩
    | none => .error (.missingKey (Text.quoted name))
  | .list _ => .error .noOperation
  | .record _ => .error .noOperation
  | key => .error (.missingKey key.display)

/-- The options of keys as they are sent, up to the first key that is missing. -/
def itemsOf (current : Fields) : List Value → Except Failure (List OptionItem)
  | [] => .ok []
  | key :: rest =>
    match itemOf current key with
    | .error e => .error e
    | .ok item => (itemsOf current rest).map (item :: ·)

/-- Lets a submission in: not while another one is under way, and only if it has keys and all of
them are there. -/
def accept (busy : Bool) (keys : List Value) (current : Fields) : Admission :=
  if busy then .ends [.warning Fault.inProgress.message] (.ok .busy)
  else if keys.isEmpty then .ends [] (.ok .unchanged)
  else match itemsOf current keys with
    | .error e => .ends [] (.error e)
    | .ok items => .sends (ofItems items)

/-- The first failure of a batch with the name of its option. -/
def failure? (results : List (String × Except Failure Envelope)) : Option (String × Failure) :=
  results.findSome? fun (name, r) =>
    match r with
    | .error e => some (name, e)
    | .ok _ => none

/-- The options that were refused, with the words of the server. -/
def refusals (results : List (String × Except Failure Envelope)) : List (String × String) :=
  results.filterMap fun (name, r) =>
    match r with
    | .ok e => if e.success then none else some (name, e.message)
    | .error _ => none

/-- What a settled batch comes to: how it ends, or none if it is saved. -/
def verdict (results : List (String × Except Failure Envelope)) :
    List Effect × Option (Except Failure Outcome) :=
  match failure? results with
  | some (name, .fault e) =>
    ([.log ⟨.warning, .submission, "Saving option " ++ name ++ " raised: " ++ e.message⟩,
      .error Fault.submission.message], some (.ok .error))
  | some (_, e) => ([], some (.error e))
  | none =>
    let refused := refusals results
    let warnings : List Effect := refused.map fun (name, message) =>
      .log ⟨.warning, .submission, "Option " ++ name ++ " rejected: " ++ message⟩
    match refused with
    | [] =>
      ([.log ⟨.info, .submission, "Saved options: " ++ ", ".intercalate (results.map Prod.fst)⟩,
        .success "Saved"], none)
    | (_, message) :: _ =>
      if results.length = 1 then (warnings ++ [.error message], some (.ok .failed))
      else
        let fault := Fault.partialFailure refused.length results.length
        (warnings ++ [.error fault.message], some (.ok .partly))

/-- How a saved batch ends after the refresh: a fault is told, any other failure goes through. -/
def afterRefresh : Except Failure Unit → List Effect × Except Failure Outcome
  | .ok _ => ([], .ok .saved)
  | .error (.fault e) =>
    ([.log ⟨.warning, .submission, "Reload after save failed: " ++ e.message⟩, .error e.message],
      .ok .saved)
  | .error e => ([], .error e)

section Turns

variable {State Stage Result : Type}

/-- Takes a reply to a batch; the last one makes its submission wait for its turn. -/
def collect (b : Batch) (s : State) (collecting settling : Batch → Stage) (place : Nat)
    (r : Reply) : Turn State Stage Result :=
  let b := b.put place r
  if b.isComplete then .waitFor s .pause (settling b)
  else { state := s, next := .waits [] (collecting b) }

/-- Settles a batch: its submission ends, or goes on if the batch is saved. -/
def settle (b : Batch) (finish : Except Failure Outcome → Turn State Stage Result)
    (saved : Turn State Stage Result) : Turn State Stage Result :=
  let (effects, verdict) := verdict b.results
  let turn := match verdict with
    | some r => finish r
    | none => saved
  turn.after effects

end Turns

end Batch

end VoucherDesk
