import VoucherDesk.Dialogue.Run

/-!
# Exchanges

An exchange is a run in surroundings that answer nothing but what was asked, at any time and
in any order. It keeps which call has which number, which questions are open, and all that
has happened. A question is open from the turn that asks it until it is answered, whatever
becomes of its call, so that what is outstanding never depends on the stage of a call.
-/

namespace VoucherDesk.Dialogue

variable {State Call Stage Result : Type}

/-- What a call has asked. -/
structure Question where
  /-- The number of the call. -/
  number : Nat
  /-- The place among what the call asked together. -/
  place : Nat
  ask : Ask

/-- The questions of the call with a number that asks several things together. -/
def questions (number : Nat) (asks : List Ask) : List Question :=
  asks.zipIdx.map fun (ask, place) => ⟨number, place, ask⟩

/-- Whether an answer is one to what was asked at a place. -/
def Answer.fits (place : Nat) : Ask → Answer → Bool
  | .query _, .reply p _ => p == place
  | .hook .., .ended _ => true
  | .line _, .line _ => true
  | .pause, .resumed => true
  | _, _ => false

/-- Whether a question is answered by an answer to the call with a number. -/
def Question.isAnsweredBy (number : Nat) (a : Answer) (q : Question) : Bool :=
  q.number == number && a.fits q.place q.ask

/-- What happens in an exchange. -/
inductive Occurrence (State Result : Type) where
  /-- The call with a number has an effect. -/
  | effect (number : Nat) (e : Effect)
  /-- A question is asked and finds a state. -/
  | asked (q : Question) (found : State)
  /-- A question is answered. -/
  | answered (q : Question) (a : Answer)
  /-- The call with a number ends. -/
  | ended (number : Nat) (r : Except Failure Result)

/-- A run with its calls by number, the open questions and all that has happened. -/
structure Exchange (State Call Stage Result : Type) where
  run : Run State Stage Result
  calls : List Call := []
  /-- The questions that are not answered yet. -/
  pending : List Question := []
  /-- What has happened, in order. -/
  history : List (Occurrence State Result) := []

namespace Exchange

/-- An exchange in which nothing has happened yet. -/
def start (s : State) : Exchange State Call Stage Result := { run := { state := s } }

/-- Takes over what an event leads to. -/
def follow (x : Exchange State Call Stage Result) (o : Step State Stage Result) :
    Exchange State Call Stage Result :=
  let asked := questions o.number o.asks
  let ended := o.run.ended.drop x.run.ended.length
  { x with
    run := o.run
    pending := x.pending ++ asked
    history := x.history ++ (o.effects.map (.effect o.number)
      ++ asked.map (.asked · o.run.state) ++ ended.map fun e => .ended e.1 e.2) }

/-- The exchange after an event; an answer to nothing that is open is never given. -/
def step (c : Controller State Call Stage Result) (x : Exchange State Call Stage Result) :
    Event Call → Exchange State Call Stage Result
  | .call call => { x with calls := x.calls ++ [call] }.follow (x.run.step c (.call call))
  | .answer number a =>
    let answered := x.pending.filter (·.isAnsweredBy number a)
    if answered.isEmpty then x
    else
      { x with
        pending := x.pending.filter fun q => !q.isAnsweredBy number a
        history := x.history ++ answered.map (Occurrence.answered · a) }.follow
          (x.run.step c (.answer number a))

/-- The exchange after events in order. -/
def play (c : Controller State Call Stage Result) (x : Exchange State Call Stage Result)
    (events : List (Event Call)) : Exchange State Call Stage Result :=
  events.foldl (step c) x

/-- The open questions of the call with a number. -/
def pendingOf (x : Exchange State Call Stage Result) (number : Nat) : List Question :=
  x.pending.filter (·.number == number)

/-- The numbers of the calls of a kind that have not ended yet. -/
def underWay (x : Exchange State Call Stage Result) (kind : Call → Bool) : List Nat :=
  (x.run.waiting.map Prod.fst).filter fun n => x.calls[n]?.any kind

end Exchange

end VoucherDesk.Dialogue
