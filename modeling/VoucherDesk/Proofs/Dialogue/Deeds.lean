import VoucherDesk.Proofs.Dialogue.Order

/-!
# What one call does

Seen from outside a call sends queries, calls hooks, has effects and gives a result; its log
entries, and when it is told what, are left out. What one call has done is the part of the
history that carries its number. Other calls add nothing to it, and nothing is added once the
call has ended.
-/

namespace VoucherDesk.Dialogue

variable {State Call Stage Result : Type}

/-- What a call does as it is seen from outside. -/
inductive Deed (Result : Type) where
  | sends (q : Query)
  | calls (h : Hook) (args : List Value)
  /-- The operator is asked for a line. -/
  | prompts (prompt : String)
  /-- Any effect but a log entry. -/
  | has (e : Effect)
  | gives (r : Except Failure Result)

namespace Deed

/-- The hook that is called. -/
def hook? : Deed Result → Option Hook
  | .calls h _ => some h
  | _ => none

/-- The error that the operator is told. -/
def told? : Deed Result → Option String
  | .has (.notice ⟨.error, message⟩) => some message
  | _ => none

/-- The result that is given. -/
def given? : Deed Result → Option (Except Failure Result)
  | .gives r => some r
  | _ => none

end Deed

/-- What is seen of an effect. -/
def Effect.deed? : Effect → Option (Deed Result)
  | .log _ => none
  | e => some (.has e)

/-- Nothing is seen of entries in the log. -/
theorem Effect.filterMap_log (entries : List LogEntry) :
    (entries.map Effect.log).filterMap (deed? : Effect → Option (Deed Result)) = [] := by
  rw [List.filterMap_map]
  exact List.filterMap_eq_nil_iff.mpr fun entry _ => rfl

/-- What is seen of a question. -/
def Ask.deed? : Ask → Option (Deed Result)
  | .query q => some (.sends q)
  | .hook h args => some (.calls h args)
  | .line prompt => some (.prompts prompt)
  | .pause => none

namespace Occurrence

/-- The number of the call to which something happens. -/
def number : Occurrence State Result → Nat
  | .effect n _ => n
  | .asked q _ => q.number
  | .answered q _ => q.number
  | .ended n _ => n

/-- What is seen of what happens. -/
def deed? : Occurrence State Result → Option (Deed Result)
  | .effect _ e => e.deed?
  | .asked q _ => q.ask.deed?
  | .answered _ _ => none
  | .ended _ r => some (.gives r)

end Occurrence

namespace Turn

/-- The end of a call, if a turn ends it. -/
def ending (t : Turn State Stage Result) : List (Deed Result) :=
  match t.next with
  | .waits .. => []
  | .ends r => [.gives r]

/-- What is seen of a turn. -/
def deeds (t : Turn State Stage Result) : List (Deed Result) :=
  t.effects.filterMap Effect.deed? ++ t.asks.filterMap Ask.deed? ++ t.ending

/-- Effects before those of a turn are seen before what is seen of the turn. -/
theorem deeds_after (effects : List Effect) (t : Turn State Stage Result) :
    (t.after effects).deeds = effects.filterMap Effect.deed? ++ t.deeds := by
  simp only [deeds, after, asks, ending, List.filterMap_append, List.append_assoc]

/-- What is sent in a turn is asked in it. -/
theorem query_mem_asks {t : Turn State Stage Result} {q : Query} (h : .sends q ∈ t.deeds) :
    .query q ∈ t.asks := by
  rcases List.mem_append.mp h with hbefore | hlast
  · rcases List.mem_append.mp hbefore with heffect | hask
    · obtain ⟨e, -, he⟩ := List.mem_filterMap.mp heffect
      cases e <;> cases he
    · obtain ⟨ask, hmem, hask⟩ := List.mem_filterMap.mp hask
      cases ask with
      | query q' =>
        cases hask
        exact hmem
      | hook h args | line prompt | pause => cases hask
  · unfold Turn.ending at hlast
    split at hlast
    · cases hlast
    · cases List.mem_singleton.mp hlast

end Turn

/-- The answer that an event gives to the call with a number. -/
def Event.answerTo? (number : Nat) : Event Call → Option Answer
  | .call _ => none
  | .answer n a => if n = number then some a else none

namespace Exchange

/-- What the call with a number has done, in order. -/
def deedsOf (x : Exchange State Call Stage Result) (number : Nat) : List (Deed Result) :=
  (x.history.filter (·.number == number)).filterMap Occurrence.deed?

variable {c : Controller State Call Stage Result} {x : Exchange State Call Stage Result}
  {awaits : Nat → Stage → List Question} {suits : Call → Stage → Prop}

/-- What happens in a turn carries the number of its call. -/
theorem number_of_mem_occurrences {n : Nat} {t : Turn State Stage Result}
    {o : Occurrence State Result} (ho : o ∈ t.occurrences n) : o.number = n := by
  simp only [Turn.occurrences, List.mem_append, List.mem_map] at ho
  rcases ho with (⟨_, -, rfl⟩ | ⟨q, hq, rfl⟩) | ⟨e, he, rfl⟩
  · rfl
  · exact number_of_mem_questions hq
  · exact (Turn.mem_endsAs.mp he).2

/-- The questions of a call are what it asks. -/
theorem map_ask_questions (n : Nat) (asks : List Ask) :
    (questions n asks).map Question.ask = asks := by
  unfold questions
  rw [List.map_map]
  exact List.zipIdx_map_fst 0 asks

private theorem filterMap_occurrences (n : Nat) (t : Turn State Stage Result) :
    (t.occurrences n).filterMap Occurrence.deed? = t.deeds := by
  have heffects : (t.effects.map (.effect n : Effect → Occurrence State Result)).filterMap
      Occurrence.deed? = t.effects.filterMap Effect.deed? := by
    rw [List.filterMap_map]
    rfl
  have hasks : ((questions n t.asks).map (.asked · t.state)).filterMap Occurrence.deed? =
      t.asks.filterMap (Ask.deed? : Ask → Option (Deed Result)) := by
    rw [List.filterMap_map, ← map_ask_questions n t.asks, List.filterMap_map, map_ask_questions]
    rfl
  have hending : ((t.endsAs n).map fun e => Occurrence.ended e.1 e.2).filterMap
      (Occurrence.deed? : Occurrence State Result → Option (Deed Result)) = t.ending := by
    unfold Turn.endsAs Turn.ending
    cases t.next with
    | waits asks stage => rfl
    | ends r => rfl
  rw [Turn.occurrences, List.filterMap_append, List.filterMap_append, heffects, hasks, hending,
    Turn.deeds]

private theorem deeds_of_occurrences (n m : Nat) (t : Turn State Stage Result) :
    ((t.occurrences m).filter (·.number == n)).filterMap Occurrence.deed? =
      if m = n then t.deeds else [] := by
  by_cases hmn : m = n
  · rw [if_pos hmn, ← filterMap_occurrences m t]
    refine congrArg _ (List.filter_eq_self.mpr fun o ho => ?_)
    rw [number_of_mem_occurrences ho]
    simpa using hmn
  · rw [if_neg hmn, List.filter_eq_nil_iff.mpr fun o ho => ?_, List.filterMap_nil]
    rw [number_of_mem_occurrences ho]
    simpa using hmn

/-- A new call adds its first turn to what it has done itself. -/
theorem deedsOf_begins (call : Call) (t : Turn State Stage Result) (n : Nat) :
    (x.begins call t).deedsOf n = x.deedsOf n ++ if x.run.begun = n then t.deeds else [] := by
  simp only [deedsOf, begins, List.filter_append, List.filterMap_append, deeds_of_occurrences]

/-- A later turn adds to what its own call has done. -/
theorem deedsOf_continues (m : Nat) (a : Answer) (t : Turn State Stage Result) (n : Nat) :
    (x.continues m a t).deedsOf n = x.deedsOf n ++ if m = n then t.deeds else [] := by
  have hanswered : (((x.pending.filter (·.isAnsweredBy m a)).map
      (.answered · a : Question → Occurrence State Result)).filter (·.number == n)).filterMap
        Occurrence.deed? = [] := by
    refine List.filterMap_eq_nil_iff.mpr fun o ho => ?_
    obtain ⟨q, -, rfl⟩ := List.mem_map.mp (List.mem_filter.mp ho).1
    rfl
  simp only [deedsOf, continues, List.filter_append, List.filterMap_append, deeds_of_occurrences,
    hanswered, List.append_nil]

/-- Whatever has happened happened to calls that have begun. -/
theorem number_lt_begun (hc : c.Keeps awaits suits) (s : State) (events : List (Event Call)) :
    ∀ o ∈ ((start s).play c events).history, o.number < ((start s).play c events).run.begun := by
  refine (play_induction (P := fun y => Orderly awaits suits y ∧
    ∀ o ∈ y.history, o.number < y.run.begun) events
    ⟨orderly_start s, List.forall_mem_nil _⟩ fun y e _ hy => ⟨hy.1.step hc e, ?_⟩).2
  obtain ⟨hord, hall⟩ := hy
  intro o ho
  cases e with
  | call call =>
    rw [Exchange.step_call] at ho ⊢
    rcases List.mem_append.mp ho with hold | hnew
    · exact Nat.lt_succ_of_lt (hall o hold)
    · rw [number_of_mem_occurrences hnew]
      exact Nat.lt_succ_self _
  | answer n a =>
    rcases hord.answer_cases c n a with hsame | ⟨q, stage, -, -, hw, -, hstep⟩
    · rw [hsame] at ho ⊢
      exact hall o ho
    · have hn : n < y.run.begun := hord.waiting_lt _ hw
      rw [hstep] at ho ⊢
      simp only [continues, List.mem_append, List.mem_map, List.mem_filter] at ho
      rcases ho with (hold | ⟨q', ⟨-, hans⟩, rfl⟩) | hnew
      · exact hall o hold
      · have hnumber := Question.number_of_isAnsweredBy hans
        simpa only [Occurrence.number, hnumber, continues] using hn
      · rw [number_of_mem_occurrences hnew]
        exact hn

/-- A call that has not begun has done nothing. -/
theorem deedsOf_begun (hc : c.Keeps awaits suits) (s : State) (events : List (Event Call)) :
    ((start s).play c events).deedsOf ((start s).play c events).run.begun = [] := by
  have hnone : (((start s).play c events).history.filter
      (·.number == ((start s).play c events).run.begun)) = [] := by
    refine List.filter_eq_nil_iff.mpr fun o ho hnumber => ?_
    have hlt := number_lt_begun hc s events o ho
    have heq : o.number = ((start s).play c events).run.begun := by simpa using hnumber
    omega
  rw [deedsOf, hnone, List.filterMap_nil]

/-- A call that has begun and does not wait has ended, and no event changes that. -/
structure HasEnded (x : Exchange State Call Stage Result) (n : Nat) : Prop where
  begun : n < x.run.begun
  waiting : n ∉ x.run.waiting.map Prod.fst

/-- No event adds to what an ended call has done. -/
theorem Orderly.deedsOf_step (h : Orderly awaits suits x) {n : Nat} (hn : x.HasEnded n)
    (e : Event Call) : (x.step c e).HasEnded n ∧ (x.step c e).deedsOf n = x.deedsOf n := by
  cases e with
  | call call =>
    have hne : x.run.begun ≠ n := Nat.ne_of_gt hn.begun
    rw [Exchange.step_call, deedsOf_begins, if_neg hne, List.append_nil]
    refine ⟨⟨Nat.lt_succ_of_lt hn.begun, fun hin => ?_⟩, rfl⟩
    rcases mem_numbers_after.mp hin with ⟨-, hold⟩ | ⟨heq, -⟩
    · exact hn.waiting hold
    · exact hne heq.symm
  | answer m a =>
    rcases h.answer_cases c m a with hsame | ⟨q, stage, -, -, hw, -, hstep⟩
    · rw [hsame]
      exact ⟨hn, rfl⟩
    · have hne : m ≠ n := fun heq => hn.waiting (heq ▸ List.mem_map_of_mem hw)
      rw [hstep, deedsOf_continues, if_neg hne, List.append_nil]
      refine ⟨⟨hn.begun, fun hin => ?_⟩, rfl⟩
      rcases mem_numbers_after.mp hin with ⟨-, hold⟩ | ⟨heq, -⟩
      · exact hn.waiting hold
      · exact hne heq.symm

/-- No events add to what an ended call has done. -/
theorem Orderly.deedsOf_play (hc : c.Keeps awaits suits) (h : Orderly awaits suits x) {n : Nat}
    (hn : x.HasEnded n) (events : List (Event Call)) :
    (x.play c events).deedsOf n = x.deedsOf n := by
  refine (play_induction (P := fun y => Orderly awaits suits y ∧ y.HasEnded n ∧
    y.deedsOf n = x.deedsOf n) events ⟨h, hn, rfl⟩ fun y e _ hy => ?_).2.2
  obtain ⟨hord, hended, hdeeds⟩ := hy
  obtain ⟨hended', hdeeds'⟩ := hord.deedsOf_step (c := c) hended e
  exact ⟨hord.step hc e, hended', hdeeds'.trans hdeeds⟩

/-- What a call does after its first turn it does in later turns: what holds of all that these do
holds of all that the call still does. -/
theorem Orderly.exists_later_deeds (hc : c.Keeps awaits suits) {P : Deed Result → Prop}
    (hresume : ∀ s stage a, ∀ d ∈ (c.resume s stage a).deeds, P d) (h : Orderly awaits suits x)
    {n : Nat} (hn : n < x.run.begun) (events : List (Event Call)) :
    ∃ later, (x.play c events).deedsOf n = x.deedsOf n ++ later ∧ ∀ d ∈ later, P d := by
  refine (play_induction (P := fun y => Orderly awaits suits y ∧ n < y.run.begun ∧
    ∃ later, y.deedsOf n = x.deedsOf n ++ later ∧ ∀ d ∈ later, P d) events
    ⟨h, hn, [], (List.append_nil _).symm, List.forall_mem_nil _⟩ fun y e _ hy => ?_).2.2
  obtain ⟨hord, hbegun, later, hdeeds, hlater⟩ := hy
  refine ⟨hord.step hc e, ?_⟩
  cases e with
  | call call =>
    rw [Exchange.step_call]
    refine ⟨Nat.lt_succ_of_lt hbegun, later, ?_, hlater⟩
    rw [deedsOf_begins, if_neg (Nat.ne_of_gt hbegun), List.append_nil, hdeeds]
  | answer m a =>
    rcases hord.answer_cases c m a with hsame | ⟨q, stage, -, -, -, -, hstep⟩
    · rw [hsame]
      exact ⟨hbegun, later, hdeeds, hlater⟩
    · rw [hstep]
      refine ⟨hbegun, later ++ (if m = n then (c.resume y.run.state stage a).deeds else []), ?_, ?_⟩
      · rw [deedsOf_continues, hdeeds, List.append_assoc]
      · intro d hd
        rcases List.mem_append.mp hd with hold | hnew
        · exact hlater d hold
        · split at hnew
          · exact hresume y.run.state stage a d hnew
          · cases hnew

end Exchange

end VoucherDesk.Dialogue
