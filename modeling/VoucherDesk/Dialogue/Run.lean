import VoucherDesk.Dialogue.Turn

/-!
# Runs

A run interleaves the turns of any number of calls on one state. It is driven by events: a new
call begins, or a call that waits is given an answer. The calls are numbered in the order in
which they begin.
-/

namespace VoucherDesk.Dialogue

variable {State Call Stage Result : Type}

/-- A state with the calls on it: those that wait and those that have ended. -/
structure Run (State Stage Result : Type) where
  state : State
  waiting : List (Nat × Stage) := []
  ended : List (Nat × Except Failure Result) := []
  /-- How many calls have begun. -/
  begun : Nat := 0

/-- What drives a run. -/
inductive Event (Call : Type) where
  /-- A new call begins. -/
  | call (c : Call)
  /-- The call with a number is given an answer. -/
  | answer (number : Nat) (a : Answer)

/-- What an event leads to: the run after it, the call it belongs to, the effects in order, and
what is asked. -/
structure Step (State Stage Result : Type) where
  run : Run State Stage Result
  number : Nat
  effects : List Effect := []
  asks : List Ask := []

namespace Run

/-- The run after a turn of the call with a number. -/
def after (r : Run State Stage Result) (number : Nat) (t : Turn State Stage Result) :
    Step State Stage Result :=
  let others := r.waiting.filter fun w => w.1 != number
  match t.next with
  | .waits asks stage =>
    { run := { r with state := t.state, waiting := others ++ [(number, stage)] },
      number, effects := t.effects, asks }
  | .ends result =>
    { run := { r with state := t.state, waiting := others, ended := r.ended ++ [(number, result)] },
      number, effects := t.effects }

/-- The run after an event; an answer to a call that does not wait changes nothing. -/
def step (c : Controller State Call Stage Result) (r : Run State Stage Result) :
    Event Call → Step State Stage Result
  | .call call =>
    { r with begun := r.begun + 1 }.after r.begun (c.begin r.state call)
  | .answer number a =>
    match r.waiting.lookup number with
    | some stage => r.after number (c.resume r.state stage a)
    | none => { run := r, number }

/-- The result of the call with a number, once it has ended. -/
def result? (r : Run State Stage Result) (number : Nat) : Option (Except Failure Result) :=
  r.ended.lookup number

/-- The most answers that the waiting calls still take. -/
def remaining (c : Controller State Call Stage Result) (r : Run State Stage Result) : Nat :=
  (r.waiting.map fun w => c.remaining w.2).foldr (· + ·) 0

end Run

end VoucherDesk.Dialogue
