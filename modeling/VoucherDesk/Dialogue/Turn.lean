import VoucherDesk.Notice
import VoucherDesk.Client.Query

/-!
# Turns

A call of a controller proceeds in turns. A turn changes the state at once, has effects in
order, and either ends the call with a result or leaves it at a stage where it waits for
answers to what it asks: the reply to a query, the end of a hook, a line from the operator,
or just that all other calls have had their turn. Between the turns of one call the turns
of other calls may come.
-/

namespace VoucherDesk.Dialogue

/-- What is called back when a submission has ended well. -/
inductive Hook where
  | refresh
  | close
  | confirm
  deriving DecidableEq, Repr

/-- The name of a hook. -/
def Hook.name : Hook → String
  | .refresh => "refresh"
  | .close => "close"
  | .confirm => "confirm"

/-- What a turn does besides changing the state. -/
inductive Effect where
  /-- Tells the operator. -/
  | notice (n : Notice)
  /-- Writes a log entry. -/
  | log (e : LogEntry)
  /-- Hands options to a watcher of the option store. -/
  | published (watcher : Nat) (options : Fields)
  /-- Prints a line. -/
  | printed (stream : Stream) (line : String)

/-- What a call waits for. -/
inductive Ask where
  /-- The reply to a query. -/
  | query (q : Query)
  /-- The end of a hook. -/
  | hook (h : Hook) (args : List Value)
  /-- A line that the operator types after a prompt. -/
  | line (prompt : String)
  /-- The end of the turns of all calls that can go on. -/
  | pause

/-- What a call is told. -/
inductive Answer where
  /-- The reply to the query at a place among those that were asked together. -/
  | reply (place : Nat) (r : Reply)
  /-- The value or the failure with which a hook ended. -/
  | ended (r : Except Failure Value)
  /-- The line of the operator, none when the input is at its end. -/
  | line (text : Option String)
  /-- All calls that could go on have had their turn. -/
  | resumed

/-- How a turn leaves its call. -/
inductive Next (Stage Result : Type) where
  | waits (asks : List Ask) (stage : Stage)
  | ends (r : Except Failure Result)

/-- A turn of a call: the new state, the effects in order, and how it goes on. -/
structure Turn (State Stage Result : Type) where
  state : State
  effects : List Effect := []
  next : Next Stage Result

namespace Turn

variable {State Stage Result : Type}

/-- A turn that ends its call. -/
def finish (state : State) (r : Except Failure Result) : Turn State Stage Result :=
  { state, next := .ends r }

/-- A turn that waits for one answer. -/
def waitFor (state : State) (ask : Ask) (stage : Stage) : Turn State Stage Result :=
  { state, next := .waits [ask] stage }

/-- The turn with effects before its own. -/
def after (effects : List Effect) (t : Turn State Stage Result) : Turn State Stage Result :=
  { t with effects := effects ++ t.effects }

end Turn

/-- The calls of one kind of state: how a call begins, and how it goes on from a stage. -/
structure Controller (State Call Stage Result : Type) where
  /-- The first turn of a call. -/
  begin : State → Call → Turn State Stage Result
  /-- The turn of a call that is given an answer; an answer that it does not wait for leaves it at
  its stage. -/
  resume : State → Stage → Answer → Turn State Stage Result
  /-- The most answers that a call takes from a stage on. -/
  remaining : Stage → Nat

/-- Tells the operator of a success. -/
def Effect.success (message : String) : Effect := .notice ⟨.success, message⟩

/-- Warns the operator. -/
def Effect.warning (message : String) : Effect := .notice ⟨.warning, message⟩

/-- Tells the operator of an error. -/
def Effect.error (message : String) : Effect := .notice ⟨.error, message⟩

end VoucherDesk.Dialogue
