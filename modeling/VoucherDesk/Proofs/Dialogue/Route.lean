import VoucherDesk.Proofs.Dialogue.Course
import VoucherDesk.Proofs.Dialogue.Record

/-!
# Calls that are left alone

While nothing happens but the answers to one call, every turn of the call finds the state that the
turn before it has left. A route is the course of a call in which the last turn counts too: all
that is asked on the way finds a state of one kind, and the end leaves one of another kind.
-/

namespace VoucherDesk.Dialogue

variable {State Call Stage Result : Type}

/-- What a call does from a turn on when it is given answers in order: whatever it asks finds a
state with one property, and its end leaves a state with another. -/
inductive Route (c : Controller State Call Stage Result) (awaits : Nat → Stage → List Question)
    (I E : State → Prop) : Turn State Stage Result → List Answer → List (Deed Result) → Prop where
  /-- The turn ends the call. -/
  | ends (t : Turn State Stage Result) (r : Except Failure Result) (next : t.next = .ends r)
      (last : E t.state) : Route c awaits I E t [] t.deeds
  /-- The turn waits for an answer, with which the call goes on. -/
  | waits (t : Turn State Stage Result) (asks : List Ask) (stage : Stage) (a : Answer)
      (rest : List Answer) (deeds : List (Deed Result)) (next : t.next = .waits asks stage)
      (state : I t.state) (fits : ∀ n, ∃ q ∈ awaits n stage, q.isAnsweredBy n a = true)
      (goesOn : ∀ s, I s → Route c awaits I E (c.resume s stage a) rest deeds) :
      Route c awaits I E t (a :: rest) (t.deeds ++ deeds)

namespace Route

variable {c : Controller State Call Stage Result} {awaits : Nat → Stage → List Question}
  {I E : State → Prop} {t : Turn State Stage Result} {answers : List Answer}
  {deeds : List (Deed Result)}

/-- The course of a call is its route without the end. -/
theorem course (h : Route c awaits I E t answers deeds) : Course c awaits I t answers deeds := by
  induction h with
  | ends t r next last => exact .ends t r next
  | waits t asks stage a rest deeds next state fits goesOn ih =>
    exact .waits t asks stage a rest deeds next state fits ih

/-- A turn that waits leaves a state that has the property. -/
theorem state (h : Route c awaits I E t answers deeds) {asks : List Ask} {stage : Stage}
    (hnext : t.next = .waits asks stage) : I t.state := h.course.state hnext

/-- Effects before those of a turn are the first that a call does on its route. -/
theorem after (h : Route c awaits I E t answers deeds) (effects : List Effect) :
    Route c awaits I E (t.after effects) answers (effects.filterMap Effect.deed? ++ deeds) := by
  cases h with
  | ends _ r next last =>
    rw [← Turn.deeds_after]
    exact .ends _ r next last
  | waits _ asks stage a rest deeds next state fits goesOn =>
    rw [← List.append_assoc, ← Turn.deeds_after]
    exact .waits _ asks stage a rest deeds next state fits goesOn

end Route

/-- A course is a route on which nothing is asked of the end. -/
theorem Course.route {c : Controller State Call Stage Result}
    {awaits : Nat → Stage → List Question} {I : State → Prop} {t : Turn State Stage Result}
    {answers : List Answer} {deeds : List (Deed Result)} (h : Course c awaits I t answers deeds) :
    Route c awaits I (fun _ => True) t answers deeds := by
  induction h with
  | ends t r next => exact .ends t r next trivial
  | waits t asks stage a rest deeds next state fits goesOn ih =>
    exact .waits t asks stage a rest deeds next state fits ih

namespace Exchange

variable {c : Controller State Call Stage Result} {x : Exchange State Call Stage Result}
  {awaits : Nat → Stage → List Question} {suits : Call → Stage → Prop} {I E : State → Prop}
  {own : Stage → Bool} {n : Nat} {t : Turn State Stage Result} {answers : List Answer}
  {deeds past : List (Deed Result)}

/-- Only a turn that waits asks anything. -/
theorem exists_waits_of_mem_questions {q : Question} (h : q ∈ questions n t.asks) :
    ∃ asks stage, t.next = .waits asks stage := by
  cases hnext : t.next with
  | waits asks stage => exact ⟨asks, stage, rfl⟩
  | ends r =>
    rw [Turn.asks, hnext] at h
    cases h

/-- After a new call those questions are on record that were before, and those that its first turn
asks with the state that it leaves. -/
theorem asked_mem_begins {call : Call} {q : Question} {found : State} :
    .asked q found ∈ (x.begins call t).history ↔
      .asked q found ∈ x.history ∨ q ∈ questions x.run.begun t.asks ∧ found = t.state := by
  rw [begins, List.mem_append, asked_mem_occurrences]

/-- After an answer those questions are on record that were before, and those that the next turn
asks with the state that it leaves. -/
theorem asked_mem_continues {a : Answer} {q : Question} {found : State} :
    .asked q found ∈ (x.continues n a t).history ↔
      .asked q found ∈ x.history ∨ q ∈ questions n t.asks ∧ found = t.state := by
  simp only [continues, List.mem_append, List.mem_map]
  constructor
  · rintro ((hold | ⟨_, _, hno⟩) | hnew)
    · exact Or.inl hold
    · cases hno
    · exact Or.inr (asked_mem_occurrences.mp hnew)
  · rintro (hold | hnew)
    · exact Or.inl (Or.inl hold)
    · exact Or.inr (asked_mem_occurrences.mpr hnew)

/-- What is known of the state after a turn that waits may be replaced. -/
theorem After.restate (h : After awaits suits I own n t x) {J : State → Prop}
    (hstate : ∀ {asks stage}, t.next = .waits asks stage → J x.run.state) :
    After awaits suits J own n t x where
  orderly := h.orderly
  waits hnext := ⟨h.orderly, (h.waits hnext).waiting, hstate hnext, (h.waits hnext).others⟩
  ends := h.ends

/-- A call that is left alone follows its route to the end. -/
theorem play_route (hc : c.Keeps awaits suits) (hroute : Route c awaits I E t answers deeds)
    (h : After awaits suits I own n t x) (hstate : x.run.state = t.state)
    (hpast : x.deedsOf n = past ++ t.deeds) :
    let y := x.play c (answers.map (.answer n))
    y.deedsOf n = past ++ deeds ∧ E y.run.state ∧ ∀ q found,
      .asked q found ∈ y.history → q.number = n → .asked q found ∈ x.history ∨ I found := by
  induction hroute generalizing x past with
  | ends t r next last => exact ⟨hpast, hstate ▸ last, fun q found hq _ => Or.inl hq⟩
  | waits t asks stage a rest deeds next state fits goesOn ih =>
    have hwaits := h.waits next
    obtain ⟨q, hq, hans⟩ := fits n
    obtain ⟨hafter, hown⟩ := hwaits.step_own hc hq hans (goesOn _ hwaits.state).state
    have hstep := hwaits.step_answer (c := c) hq hans
    have hpast' : (x.step c (.answer n a)).deedsOf n =
        (past ++ t.deeds) ++ (c.resume x.run.state stage a).deeds := by
      rw [hown, hpast]
    obtain ⟨hdeeds, hlast, hasked⟩ := ih x.run.state hwaits.state hafter (by rw [hstep]; rfl) hpast'
    refine ⟨by rw [← List.append_assoc]; exact hdeeds, hlast, fun p found hp hnumber => ?_⟩
    rcases hasked p found hp hnumber with hold | hmet
    · rw [hstep] at hold
      rcases asked_mem_continues.mp hold with hbefore | ⟨hp', rfl⟩
      · exact Or.inl hbefore
      · obtain ⟨asks', stage', hnext⟩ := exists_waits_of_mem_questions hp'
        exact Or.inr ((goesOn _ hwaits.state).state hnext)
    · exact Or.inr hmet

end Exchange

end VoucherDesk.Dialogue
