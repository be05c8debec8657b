import VoucherDesk.Dialogue.Run
import VoucherDesk.Client.Basic

/-!
# Rehearsals

A rehearsal plays the calls of a controller against surroundings: a server that replies to
requests, hooks that end in a given way, and an operator who types lines. An answer may be
held back until it is released; every other answer is given at once, so that its call goes
on before anything else happens. A call that pauses gets its turn after the answers that
were released with its own. Everything that happens is noted in order.
-/

namespace VoucherDesk.Dialogue

variable {State Call Stage Result World : Type}

/-- An answer that may be held back. -/
structure Cue (α : Type) where
  value : α
  held : Bool := false

/-- What the calls meet. -/
structure Surroundings (World : Type) where
  /-- The server. -/
  serve : World → Request → Cue Reply × World
  /-- The way in which a hook ends. -/
  hook : Hook → Cue (Except Failure Value)
  /-- The next line of the operator. -/
  readLine : World → Option String × World

/-- What happens in a rehearsal. -/
inductive Happening (State : Type) where
  | effect (e : Effect)
  /-- A request is sent. -/
  | sent (r : Request)
  /-- A hook is called and finds a state. -/
  | called (h : Hook) (args : List Value) (found : State)
  /-- The operator is asked for a line. -/
  | prompted (prompt : String)

/-- An answer on its way to a call, with what is logged when it arrives. -/
structure Delivery where
  number : Nat
  remarks : List LogEntry := []
  answer : Answer

/-- A rehearsal so far. -/
structure Rehearsal (State Stage Result World : Type) where
  run : Run State Stage Result
  client : Client
  world : World
  /-- The answers whose turn comes next. -/
  ready : List Delivery := []
  /-- The answers that are held back. -/
  held : List Delivery := []
  /-- What has happened, in order. -/
  happened : List (Happening State) := []

namespace Rehearsal

/-- Notes what happens. -/
def note (r : Rehearsal State Stage Result World) (hs : List (Happening State)) :
    Rehearsal State Stage Result World :=
  { r with happened := r.happened ++ hs }

/-- Gives an answer at once, or holds it back. -/
def cue (r : Rehearsal State Stage Result World) (isHeld : Bool) (d : Delivery) :
    Rehearsal State Stage Result World × Option Delivery :=
  if isHeld then ({ r with held := r.held ++ [d] }, none) else (r, some d)

/-- Asks for a call, at a place among what it asks together; gives the answer that comes at once. -/
def ask (s : Surroundings World) (r : Rehearsal State Stage Result World) (number place : Nat) :
    Ask → Rehearsal State Stage Result World × Option Delivery
  | .query q =>
    match q.refusal with
    | some e => (r, some { number, answer := .reply place (.lost e) })
    | none =>
      let r := r.note [.effect (.log q.announcement)]
      match r.client.request q with
      | .error e => (r, some { number, answer := .reply place (.lost e) })
      | .ok request =>
        let (reply, world) := s.serve r.world request
        let r := { r with world }.note [.sent request]
        r.cue reply.held
          { number, remarks := q.remarks reply.value, answer := .reply place reply.value }
  | .hook h args =>
    let r := r.note [.called h args r.run.state]
    r.cue (s.hook h).held { number, answer := .ended (s.hook h).value }
  | .line prompt =>
    let (line, world) := s.readLine r.world
    ({ r with world }.note [.prompted prompt], some { number, answer := .line line })
  | .pause => ({ r with ready := r.ready ++ [{ number, answer := .resumed }] }, none)

/-- Takes over what an event leads to. -/
def take (r : Rehearsal State Stage Result World) (o : Step State Stage Result) :
    Rehearsal State Stage Result World :=
  { r with run := o.run }.note (o.effects.map .effect)

/-- Asks what a call asks together, and lets the call go on with every answer that comes at once,
for at most the given number of turns in a row. -/
def askAll (c : Controller State Call Stage Result) (s : Surroundings World) :
    Nat → Nat → List (Nat × Ask) → Rehearsal State Stage Result World →
      Rehearsal State Stage Result World
  | 0, _, _, r => r
  | _ + 1, _, [], r => r
  | turns + 1, number, (place, a) :: rest, r =>
    let (r, delivery) := r.ask s number place a
    let r := match delivery with
      | none => r
      | some d =>
        let r := r.note (d.remarks.map fun e => .effect (.log e))
        let o := r.run.step c (.answer d.number d.answer)
        askAll c s turns number (o.asks.zipIdx.map fun (a, i) => (i, a)) (r.take o)
    askAll c s (turns + 1) number rest r

/-- Goes on with what an event leads to. -/
def follow (c : Controller State Call Stage Result) (s : Surroundings World)
    (r : Rehearsal State Stage Result World) (o : Step State Stage Result) :
    Rehearsal State Stage Result World :=
  askAll c s (o.run.remaining c) o.number (o.asks.zipIdx.map fun (a, i) => (i, a)) (r.take o)

/-- Gives a call its answer. -/
def deliver (c : Controller State Call Stage Result) (s : Surroundings World)
    (r : Rehearsal State Stage Result World) (d : Delivery) :
    Rehearsal State Stage Result World :=
  let r := r.note (d.remarks.map fun e => .effect (.log e))
  r.follow c s (r.run.step c (.answer d.number d.answer))

/-- Gives the answers that are ready, and those that become ready on the way, in order. -/
def drain (c : Controller State Call Stage Result) (s : Surroundings World) :
    Nat → Rehearsal State Stage Result World → Rehearsal State Stage Result World
  | 0, r => r
  | turns + 1, r =>
    match r.ready with
    | [] => r
    | d :: rest => drain c s turns ({ r with ready := rest }.deliver c s d)

/-- Lets everything go on that can. -/
def settle (c : Controller State Call Stage Result) (s : Surroundings World)
    (r : Rehearsal State Stage Result World) : Rehearsal State Stage Result World :=
  r.drain c s (r.ready.length + r.run.remaining c)

/-- Begins a call and lets everything go on that can; gives the number of the call besides. -/
def call (c : Controller State Call Stage Result) (s : Surroundings World)
    (r : Rehearsal State Stage Result World) (a : Call) :
    Rehearsal State Stage Result World × Nat :=
  ((r.follow c s (r.run.step c (.call a))).settle c s, r.run.begun)

/-- Releases everything that is held back, and lets everything go on that can. -/
def release (c : Controller State Call Stage Result) (s : Surroundings World)
    (r : Rehearsal State Stage Result World) : Rehearsal State Stage Result World :=
  { r with ready := r.ready ++ r.held, held := [] }.settle c s

end Rehearsal

end VoucherDesk.Dialogue
