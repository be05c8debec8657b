import VoucherDesk.Proofs.Dialogue.Deeds

/-!
# Twin runs

Some calls end at once and change nothing but a part of the state that the later turns of calls pass
on without reading it. A call that waits does the same with such calls in between as without them:
the two runs are twins, which differ in that part of the state alone.
-/

namespace VoucherDesk.Dialogue

variable {State Call Stage Result : Type}

/-- Two turns have the same effects and go on in the same way; only the states that they leave may
differ. -/
structure Turn.Agree (R : State → State → Prop) (t u : Turn State Stage Result) : Prop where
  state : R t.state u.state
  effects : u.effects = t.effects
  next : u.next = t.next

namespace Turn.Agree

variable {R : State → State → Prop} {t u : Turn State Stage Result}

theorem asks (h : Agree R t u) : u.asks = t.asks := by
  rw [Turn.asks, Turn.asks, h.next]

theorem waitsAs (h : Agree R t u) (n : Nat) : u.waitsAs n = t.waitsAs n := by
  rw [Turn.waitsAs, Turn.waitsAs, h.next]

theorem deeds (h : Agree R t u) : u.deeds = t.deeds := by
  rw [Turn.deeds, Turn.deeds, h.effects, h.asks, Turn.ending, Turn.ending, h.next]

end Turn.Agree

/-- Calls of a kind end at once. What they change of a state stays in that part of it which later
turns do not read: states that agree but for that part lead to turns that agree so. -/
structure Controller.Overlooks (c : Controller State Call Stage Result) (silent : Call → Bool)
    (R : State → State → Prop) : Prop where
  begin : ∀ {s t call}, R s t → silent call = true →
    (∃ r, (c.begin t call).next = .ends r) ∧ R s (c.begin t call).state
  resume : ∀ {s t} stage a, R s t → Turn.Agree R (c.resume s stage a) (c.resume t stage a)

/-- The call that an event begins. -/
def Event.call? : Event Call → Option Call
  | .call c => some c
  | .answer .. => none

/-- An event is a call of a kind, or an answer to the call with a number. -/
def Event.IsBetween (silent : Call → Bool) (n : Nat) : Event Call → Prop
  | .call c => silent c = true
  | .answer m _ => m = n

namespace Exchange

variable {c : Controller State Call Stage Result} {awaits : Nat → Stage → List Question}
  {suits : Call → Stage → Prop} {silent : Call → Bool} {R : State → State → Prop} {n : Nat}
  {x y : Exchange State Call Stage Result}

/-- Two exchanges in which the same calls wait for the same answers, and in which the call with a
number has done the same. -/
structure Twins (awaits : Nat → Stage → List Question) (suits : Call → Stage → Prop)
    (R : State → State → Prop) (n : Nat) (x y : Exchange State Call Stage Result) : Prop where
  orderly : y.Orderly awaits suits
  begun : n < y.run.begun
  state : R x.run.state y.run.state
  waiting : y.run.waiting = x.run.waiting
  pending : y.pending = x.pending
  deeds : y.deedsOf n = x.deedsOf n

namespace Twins

/-- A silent call in one of them leaves them twins. -/
theorem step_call (hc : c.Keeps awaits suits) (ho : c.Overlooks silent R)
    (h : Twins awaits suits R n x y) {call : Call} (hsilent : silent call = true) :
    Twins awaits suits R n x (y.step c (.call call)) := by
  obtain ⟨⟨r, hnext⟩, hstate⟩ := ho.begin h.state hsilent
  have horderly := h.orderly.step_call hc call
  have hwaits : (c.begin y.run.state call).waitsAs y.run.begun = [] := by
    rw [Turn.waitsAs, hnext]
  have hasks : (c.begin y.run.state call).asks = [] := by
    rw [Turn.asks, hnext]
  rw [Exchange.step_call] at horderly ⊢
  refine ⟨horderly, Nat.lt_succ_of_lt h.begun, hstate, ?_, ?_, ?_⟩
  · show (y.run.waiting.filter fun w => w.1 != y.run.begun) ++ _ = _
    rw [h.orderly.filter_begun, hwaits, List.append_nil, h.waiting]
  · show y.pending ++ _ = _
    rw [hasks, questions_nil, List.append_nil, h.pending]
  · rw [deedsOf_begins, if_neg (Nat.ne_of_gt h.begun), List.append_nil, h.deeds]

/-- An answer in both of them leaves them twins. -/
theorem step_answer (hc : c.Keeps awaits suits) (ho : c.Overlooks silent R)
    (h : Twins awaits suits R n x y) (m : Nat) (a : Answer) :
    Twins awaits suits R n (x.step c (.answer m a)) (y.step c (.answer m a)) := by
  by_cases hopen : ∃ q ∈ y.pending, q.isAnsweredBy m a = true
  · obtain ⟨q, hq, hans⟩ := hopen
    obtain rfl : q.number = m := Question.number_of_isAnsweredBy hans
    obtain ⟨stage, hw, -⟩ := h.orderly.exists_stage hq
    have hlookup := h.orderly.lookup hw
    have horderly := h.orderly.step_answer hc q.number a
    have hagree := ho.resume stage a h.state
    rw [Exchange.step_answer hq hans hlookup] at horderly ⊢
    rw [Exchange.step_answer (h.pending ▸ hq) hans (h.waiting ▸ hlookup)]
    refine ⟨horderly, h.begun, hagree.state, ?_, ?_, ?_⟩
    · simp only [continues, h.waiting, hagree.waitsAs]
    · simp only [continues, h.pending, hagree.asks]
    · rw [deedsOf_continues, deedsOf_continues, h.deeds, hagree.deeds]
  · have hnone : ∀ q ∈ y.pending, ¬ q.isAnsweredBy m a = true :=
      fun q hq hans => hopen ⟨q, hq, hans⟩
    rw [step_unasked hnone, step_unasked (h.pending ▸ hnone)]
    exact h

/-- The run without the silent calls is the twin of the run with them. -/
theorem play (hc : c.Keeps awaits suits) (ho : c.Overlooks silent R)
    (h : Twins awaits suits R n x y) {events : List (Event Call)}
    (hevents : ∀ e ∈ events, e.IsBetween silent n) :
    Twins awaits suits R n (x.play c (events.filter fun e => (e.answerTo? n).isSome))
      (y.play c events) := by
  induction events generalizing x y with
  | nil => exact h
  | cons e rest ih =>
    obtain ⟨hfirst, hrest⟩ := List.forall_mem_cons.mp hevents
    cases e with
    | call call =>
      rw [List.filter_cons_of_neg (by simp [Event.answerTo?])]
      exact ih (h.step_call hc ho hfirst) hrest
    | answer m a =>
      obtain rfl : m = n := hfirst
      rw [List.filter_cons_of_pos (by simp [Event.answerTo?])]
      exact ih (h.step_answer hc ho m a) hrest

end Twins

end Exchange

end VoucherDesk.Dialogue
