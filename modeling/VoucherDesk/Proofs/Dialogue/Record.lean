import VoucherDesk.Proofs.Dialogue.Order

/-!
# Records of exchanges

The record of an exchange is complete. Whatever was asked is either open or answered, and the
calls that have ended are those whose end is on record. What holds of the state and of the
questions at every turn holds of every question on record.
-/

namespace VoucherDesk.Dialogue

/-- The question that is asked, if it is one that happens. -/
def Occurrence.asked? {State Result : Type} : Occurrence State Result → Option Question
  | .asked q _ => some q
  | _ => none

namespace Exchange

variable {State Call Stage Result : Type} {c : Controller State Call Stage Result}
  {x : Exchange State Call Stage Result} {awaits : Nat → Stage → List Question}
  {suits : Call → Stage → Prop}

/-- A turn brings its questions on record, with the state that it leaves. -/
theorem asked_mem_occurrences {n : Nat} {t : Turn State Stage Result} {q : Question}
    {found : State} :
    Occurrence.asked q found ∈ t.occurrences n ↔ q ∈ questions n t.asks ∧ found = t.state := by
  simp only [Turn.occurrences, List.mem_append, List.mem_map]
  constructor
  · rintro ((⟨_, _, h⟩ | ⟨q', hq, h⟩) | ⟨_, _, h⟩)
    · cases h
    · cases h
      exact ⟨hq, rfl⟩
    · cases h
  · rintro ⟨hq, rfl⟩
    exact Or.inl (Or.inr ⟨q, hq, rfl⟩)

/-- Whatever was asked is either open or answered. -/
theorem asked_pending_or_answered (hc : c.Keeps awaits suits) (s : State)
    (events : List (Event Call)) :
    ∀ q found, Occurrence.asked q found ∈ ((start s).play c events).history →
      q ∈ ((start s).play c events).pending ∨
        ∃ a, Occurrence.answered q a ∈ ((start s).play c events).history := by
  refine (play_induction (P := fun y => Orderly awaits suits y ∧ ∀ q found,
    Occurrence.asked q found ∈ y.history → q ∈ y.pending ∨ ∃ a, .answered q a ∈ y.history)
    events ⟨orderly_start s, fun _ _ h => absurd h List.not_mem_nil⟩
    fun y e _ hy => ⟨hy.1.step hc e, ?_⟩).2
  obtain ⟨hord, hall⟩ := hy
  intro q found hasked
  cases e with
  | call call =>
    rw [Exchange.step_call] at hasked ⊢
    simp only [begins, List.mem_append] at hasked ⊢
    rcases hasked with hold | hnew
    · rcases hall q found hold with hp | ⟨a, ha⟩
      · exact Or.inl (Or.inl hp)
      · exact Or.inr ⟨a, Or.inl ha⟩
    · exact Or.inl (Or.inr (asked_mem_occurrences.mp hnew).1)
  | answer n a =>
    rcases hord.answer_cases c n a with hsame | ⟨p, stage, -, -, -, -, hstep⟩
    · rw [hsame] at hasked ⊢
      exact hall q found hasked
    · rw [hstep] at hasked ⊢
      simp only [continues, List.mem_append, List.mem_filter, List.mem_map] at hasked ⊢
      rcases hasked with (hold | ⟨_, _, hno⟩) | hnew
      · rcases hall q found hold with hq | ⟨b, hb⟩
        · -- An open question is answered by this very answer or stays open.
          cases hqa : q.isAnsweredBy n a with
          | true => exact Or.inr ⟨a, Or.inl (Or.inr ⟨q, ⟨hq, hqa⟩, rfl⟩)⟩
          | false => exact Or.inl (Or.inl ⟨hq, by simp⟩)
        · exact Or.inr ⟨b, Or.inl (Or.inl hb)⟩
      · cases hno
      · exact Or.inl (Or.inr (asked_mem_occurrences.mp hnew).1)

/-- What every turn keeps of the state holds after all events, and what holds of everything that a
turn asks holds of everything on record. -/
theorem invariant_and_asked (hc : c.Keeps awaits suits) {I : State → Prop} {P : State → Ask → Prop}
    {A : Call → Prop}
    (hbegin : ∀ s call, I s → A call →
      I (c.begin s call).state ∧ ∀ a ∈ (c.begin s call).asks, P (c.begin s call).state a)
    (hresume : ∀ s stage a, I s →
      I (c.resume s stage a).state ∧
        ∀ b ∈ (c.resume s stage a).asks, P (c.resume s stage a).state b)
    {s : State} (hs : I s) (events : List (Event Call))
    (hevents : ∀ call, .call call ∈ events → A call) :
    I ((start s).play c events).run.state ∧
      ∀ q found, Occurrence.asked q found ∈ ((start s).play c events).history → P found q.ask := by
  refine (play_induction (P := fun y => Orderly awaits suits y ∧ I y.run.state ∧
    ∀ q found, Occurrence.asked q found ∈ y.history → P found q.ask)
    events ⟨orderly_start s, hs, fun _ _ h => absurd h List.not_mem_nil⟩
    fun y e he hy => ⟨hy.1.step hc e, ?_⟩).2
  obtain ⟨hord, hI, hall⟩ := hy
  cases e with
  | call call =>
    obtain ⟨hstate, hasks⟩ := hbegin y.run.state call hI (hevents call he)
    rw [Exchange.step_call]
    refine ⟨hstate, fun q found hasked => ?_⟩
    rcases List.mem_append.mp hasked with hold | hnew
    · exact hall q found hold
    · obtain ⟨hq, rfl⟩ := asked_mem_occurrences.mp hnew
      exact hasks q.ask (List.mem_of_getElem? (mem_questions.mp hq).2)
  | answer n a =>
    rcases hord.answer_cases c n a with hsame | ⟨p, stage, -, -, -, -, hstep⟩
    · rw [hsame]
      exact ⟨hI, hall⟩
    · obtain ⟨hstate, hasks⟩ := hresume y.run.state stage a hI
      rw [hstep]
      refine ⟨hstate, fun q found hasked => ?_⟩
      simp only [continues, List.mem_append, List.mem_map] at hasked
      rcases hasked with (hold | ⟨_, _, hno⟩) | hnew
      · exact hall q found hold
      · cases hno
      · obtain ⟨hq, rfl⟩ := asked_mem_occurrences.mp hnew
        exact hasks q.ask (List.mem_of_getElem? (mem_questions.mp hq).2)

/-- The questions that an event brings on record. -/
def asksAt (c : Controller State Call Stage Result) (x : Exchange State Call Stage Result)
    (e : Event Call) : List Question :=
  ((x.step c e).history.drop x.history.length).filterMap Occurrence.asked?

private theorem filterMap_asked_occurrences (n : Nat) (t : Turn State Stage Result) :
    (t.occurrences n).filterMap Occurrence.asked? = questions n t.asks := by
  have heffects : (t.effects.map (.effect n : Effect → Occurrence State Result)).filterMap
      Occurrence.asked? = [] := by
    refine List.filterMap_eq_nil_iff.mpr fun o ho => ?_
    obtain ⟨e, -, rfl⟩ := List.mem_map.mp ho
    rfl
  have hasks : ((questions n t.asks).map (.asked · t.state :
      Question → Occurrence State Result)).filterMap Occurrence.asked? = questions n t.asks := by
    rw [List.filterMap_map]
    exact List.filterMap_some
  have hending : ((t.endsAs n).map fun e => (.ended e.1 e.2 : Occurrence State Result)).filterMap
      Occurrence.asked? = [] := by
    refine List.filterMap_eq_nil_iff.mpr fun o ho => ?_
    obtain ⟨e, -, rfl⟩ := List.mem_map.mp ho
    rfl
  rw [Turn.occurrences, List.filterMap_append, List.filterMap_append, heffects, hasks, hending,
    List.nil_append, List.append_nil]

/-- A new call asks what its first turn asks. -/
theorem asksAt_call (call : Call) :
    x.asksAt c (.call call) = questions x.run.begun (c.begin x.run.state call).asks := by
  rw [asksAt, Exchange.step_call]
  simp only [begins, List.drop_left, filterMap_asked_occurrences]

/-- A turn after an answer asks what it asks. -/
theorem asksAt_continues {n : Nat} {a : Answer} {t : Turn State Stage Result}
    (hstep : x.step c (.answer n a) = x.continues n a t) :
    x.asksAt c (.answer n a) = questions n t.asks := by
  have hanswered : ((x.pending.filter (·.isAnsweredBy n a)).map
      (.answered · a : Question → Occurrence State Result)).filterMap Occurrence.asked? = [] := by
    refine List.filterMap_eq_nil_iff.mpr fun o ho => ?_
    obtain ⟨q, -, rfl⟩ := List.mem_map.mp ho
    rfl
  rw [asksAt, hstep]
  simp only [continues, List.append_assoc, List.drop_left, List.filterMap_append, hanswered,
    filterMap_asked_occurrences, List.nil_append]

/-- An answer makes a call ask what its next turn asks, if it answers anything. -/
theorem Orderly.asksAt_answer (h : Orderly awaits suits x) (c : Controller State Call Stage Result)
    (n : Nat) (a : Answer) :
    x.asksAt c (.answer n a) = [] ∨
      ∃ stage, (n, stage) ∈ x.run.waiting ∧
        x.asksAt c (.answer n a) = questions n (c.resume x.run.state stage a).asks := by
  rcases h.answer_cases c n a with hsame | ⟨q, stage, -, -, hw, -, hstep⟩
  · refine Or.inl ?_
    rw [asksAt, hsame, List.drop_length, List.filterMap_nil]
  · exact Or.inr ⟨stage, hw, asksAt_continues hstep⟩

end Exchange

end VoucherDesk.Dialogue
