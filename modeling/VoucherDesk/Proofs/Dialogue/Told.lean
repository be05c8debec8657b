import Mathlib.Data.List.Induction
import VoucherDesk.Proofs.Dialogue.Course
import VoucherDesk.Proofs.Dialogue.Record

/-!
# What a call is told

Of what happens to a call the answers are all that it can know of the world. What its stages say
of the answers so far is true of every call that waits, and what a result says of them is true of
every call that has ended with it, in whatever way the calls are interleaved.
-/

namespace VoucherDesk.Dialogue

variable {State Call Stage Result : Type}

/-- The question that is answered and its answer, if it is an answer that happens. -/
def Occurrence.answered? : Occurrence State Result → Option (Question × Answer)
  | .answered q a => some (q, a)
  | _ => none

/-- What a turn leaves of what is known at a stage, or has been earned with a result. -/
def Turn.Leaves (known : Stage → Prop) (earned : Except Failure Result → Prop)
    (t : Turn State Stage Result) : Prop :=
  match t.next with
  | .waits _ stage => known stage
  | .ends r => earned r

/-- Effects before those of a turn leave what it leaves. -/
theorem Turn.leaves_after {known : Stage → Prop} {earned : Except Failure Result → Prop}
    {t : Turn State Stage Result} (effects : List Effect) :
    (t.after effects).Leaves known earned ↔ t.Leaves known earned := Iff.rfl

/-- The answers to those of certain questions that an answer to the call with a number answers. -/
def answersTo (asked : List Question) (number : Nat) (a : Answer) : List (Question × Answer) :=
  (asked.filter (·.isAnsweredBy number a)).map (·, a)

/-- What is known of the answers to a call at each of its stages, and what it has earned with its
result. -/
structure Controller.Knows (c : Controller State Call Stage Result)
    (awaits : Nat → Stage → List Question) (suits : Call → Stage → Prop)
    (known : Nat → List (Question × Answer) → Stage → Prop)
    (earned : Nat → List (Question × Answer) → Except Failure Result → Prop) : Prop where
  /-- A new call has been told nothing. -/
  begin : ∀ s call n, (c.begin s call).Leaves (known n []) (earned n [])
  /-- A call that is told more knows it. -/
  resume : ∀ s {call stage n told a}, suits call stage → known n told stage →
    (∃ q ∈ awaits n stage, q.isAnsweredBy n a = true) →
    (c.resume s stage a).Leaves (known n (told ++ answersTo (awaits n stage) n a))
      (earned n (told ++ answersTo (awaits n stage) n a))

namespace Exchange

variable {c : Controller State Call Stage Result} {x : Exchange State Call Stage Result}
  {awaits : Nat → Stage → List Question} {suits : Call → Stage → Prop}

/-- The questions of the call with a number. -/
def askedBy (x : Exchange State Call Stage Result) (number : Nat) : List Question :=
  (x.history.filterMap Occurrence.asked?).filter (·.number == number)

/-- The questions of the call with a number that have been answered, with their answers, in the
order of the answers. -/
def toldTo (x : Exchange State Call Stage Result) (number : Nat) : List (Question × Answer) :=
  (x.history.filterMap Occurrence.answered?).filter (·.1.number == number)

private theorem filterMap_answered_occurrences (n : Nat) (t : Turn State Stage Result) :
    (t.occurrences n).filterMap Occurrence.answered? = [] := by
  refine List.filterMap_eq_nil_iff.mpr fun o ho => ?_
  simp only [Turn.occurrences, List.mem_append, List.mem_map] at ho
  rcases ho with (⟨_, -, rfl⟩ | ⟨_, -, rfl⟩) | ⟨_, -, rfl⟩ <;> rfl

/-- A new call is told nothing with its first turn, and neither is any other call. -/
theorem toldTo_begins (call : Call) (t : Turn State Stage Result) (n : Nat) :
    (x.begins call t).toldTo n = x.toldTo n := by
  simp only [toldTo, begins, List.filterMap_append, filterMap_answered_occurrences,
    List.append_nil]

/-- An answer is told to the call that it is given to. -/
theorem toldTo_continues (m : Nat) (a : Answer) (t : Turn State Stage Result) (n : Nat) :
    (x.continues m a t).toldTo n =
      x.toldTo n ++ if m = n then answersTo (x.pendingOf n) n a else [] := by
  have hanswered : ((x.pending.filter (·.isAnsweredBy m a)).map
      (.answered · a : Question → Occurrence State Result)).filterMap Occurrence.answered? =
        (x.pending.filter (·.isAnsweredBy m a)).map (·, a) := by
    rw [List.filterMap_map]
    exact congrFun List.filterMap_eq_map _
  simp only [toldTo, continues, List.filterMap_append, hanswered, filterMap_answered_occurrences,
    List.append_nil, List.filter_append]
  congr 1
  rw [List.filter_map, List.filter_filter]
  by_cases hmn : m = n
  · subst hmn
    rw [if_pos rfl, answersTo, pendingOf, List.filter_filter]
    refine congrArg _ (List.filter_congr fun q _ => ?_)
    exact Bool.and_comm ..
  · rw [if_neg hmn, List.map_eq_nil_iff, List.filter_eq_nil_iff]
    intro q _ hboth
    obtain ⟨hnumber, hans⟩ := Bool.and_eq_true_iff.mp hboth
    exact hmn ((Question.number_of_isAnsweredBy hans).symm.trans (beq_iff_eq.mp hnumber))

/-- A call that has not begun has been told nothing. -/
theorem toldTo_begun (hc : c.Keeps awaits suits) (s : State) (events : List (Event Call)) :
    ((start s).play c events).toldTo ((start s).play c events).run.begun = [] := by
  refine List.filter_eq_nil_iff.mpr fun p hp hnumber => ?_
  obtain ⟨o, ho, hanswered⟩ := List.mem_filterMap.mp hp
  have hlt := number_lt_begun hc s events o ho
  have heq : p.1.number = ((start s).play c events).run.begun := by simpa using hnumber
  have hsame : o.number = p.1.number := by
    cases o with
    | answered q a =>
      cases hanswered
      rfl
    | _ => cases hanswered
  omega

/-- Whatever is known at the stages of a controller is known of every call that waits, and whatever
is earned with a result has been earned by every call that has ended with it. -/
theorem knows_play (hc : c.Keeps awaits suits)
    {known : Nat → List (Question × Answer) → Stage → Prop}
    {earned : Nat → List (Question × Answer) → Except Failure Result → Prop}
    (hk : c.Knows awaits suits known earned) (s : State) (events : List (Event Call)) :
    let x := (start s).play c events
    (∀ w ∈ x.run.waiting, known w.1 (x.toldTo w.1) w.2) ∧
      ∀ e ∈ x.run.ended, earned e.1 (x.toldTo e.1) e.2 := by
  -- The induction is from the last event, so that the exchange before it is known as a whole.
  induction events using List.reverseRecOn with
  | nil => exact ⟨List.forall_mem_nil _, List.forall_mem_nil _⟩
  | append_singleton before e ih =>
    have hord := orderly_play hc s before
    have hbegun := toldTo_begun hc s before
    rw [play_append]
    generalize (start s).play c before = x at ih hord hbegun
    obtain ⟨hwaiting, hended⟩ := ih
    show (∀ w ∈ (x.step c e).run.waiting, known w.1 ((x.step c e).toldTo w.1) w.2) ∧
      ∀ e' ∈ (x.step c e).run.ended, earned e'.1 ((x.step c e).toldTo e'.1) e'.2
    cases e with
    | call call =>
      have hturn := hk.begin x.run.state call x.run.begun
      rw [Exchange.step_call]
      simp only [toldTo_begins]
      refine ⟨fun w hw => ?_, fun e he => ?_⟩
      · rcases mem_waiting_after.mp hw with ⟨hold, -⟩ | ⟨hnew, asks, hnext⟩
        · exact hwaiting w hold
        · rw [hnew, hbegun]
          simpa only [Turn.Leaves, hnext] using hturn
      · rcases List.mem_append.mp he with hold | hnew
        · exact hended e hold
        · obtain ⟨hnext, hnumber⟩ := Turn.mem_endsAs.mp hnew
          rw [hnumber, hbegun]
          simpa only [Turn.Leaves, hnext] using hturn
    | answer n a =>
      rcases hord.answer_cases c n a with hsame | ⟨q, stage, -, hans, hw, haw, hstep⟩
      · rw [hsame]
        exact ⟨hwaiting, hended⟩
      · obtain ⟨call, -, hsuits⟩ := hord.suits _ hw
        have hturn := hk.resume x.run.state hsuits (hwaiting _ hw) ⟨q, haw, hans⟩
        rw [hstep]
        simp only [toldTo_continues, ← hord.pendingOf _ hw] at hturn ⊢
        refine ⟨fun w hw' => ?_, fun e he => ?_⟩
        · rcases mem_waiting_after.mp hw' with ⟨hold, hne⟩ | ⟨rfl, asks, hnext⟩
          · rw [if_neg (Ne.symm hne), List.append_nil]
            exact hwaiting w hold
          · rw [if_pos rfl]
            simpa only [Turn.Leaves, hnext] using hturn
        · rcases List.mem_append.mp he with hold | hnew
          · have hne : n ≠ e.1 := fun heq =>
              (hord.ended_lt e hold).2 (heq ▸ List.mem_map_of_mem hw)
            rw [if_neg hne, List.append_nil]
            exact hended e hold
          · obtain ⟨hnext, rfl⟩ := Turn.mem_endsAs.mp hnew
            rw [if_pos rfl]
            simpa only [Turn.Leaves, hnext] using hturn

/-- Everything that a call has asked is answered once it has ended. -/
theorem exists_told_of_ended (hc : c.Keeps awaits suits) {s : State} {events : List (Event Call)}
    {n : Nat} {r : Except Failure Result} (hended : (n, r) ∈ ((start s).play c events).run.ended)
    {q : Question} (hq : q ∈ ((start s).play c events).askedBy n) :
    ∃ a, (q, a) ∈ ((start s).play c events).toldTo n := by
  have hord := orderly_play hc s events
  obtain ⟨hasked, hnumber⟩ := List.mem_filter.mp hq
  obtain ⟨o, ho, hoq⟩ := List.mem_filterMap.mp hasked
  cases o with
  | asked q' found =>
    cases hoq
    rcases asked_pending_or_answered hc s events q found ho with hpending | ⟨a, hanswered⟩
    · have hwaits := hord.waiting_of_pending q hpending
      rw [beq_iff_eq.mp hnumber] at hwaits
      exact absurd hwaits (hord.ended_lt _ hended).2
    · exact ⟨a, List.mem_filter.mpr
        ⟨List.mem_filterMap.mpr ⟨_, hanswered, rfl⟩, hnumber⟩⟩
  | _ => cases hoq

end Exchange

end VoucherDesk.Dialogue
