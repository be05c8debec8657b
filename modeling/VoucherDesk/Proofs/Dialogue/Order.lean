import VoucherDesk.Proofs.Dialogue.Exchange

/-!
# Order in exchanges

What one event does to an exchange, in terms of the turn that it leads to. Calls keep their
numbers apart, and a controller that says at every stage which questions of a call are open
leaves no question of an ended call behind.
-/

namespace VoucherDesk.Dialogue

variable {State Call Stage Result : Type}

namespace Turn

/-- What a turn asks. -/
def asks (t : Turn State Stage Result) : List Ask :=
  match t.next with
  | .waits asks _ => asks
  | .ends _ => []

/-- Whether a turn leaves its call at one of certain stages. -/
def isAt (p : Stage → Bool) (t : Turn State Stage Result) : Bool :=
  match t.next with
  | .waits _ stage => p stage
  | .ends _ => false

/-- The entry among the waiting calls that a turn of the call with a number leaves. -/
def waitsAs (number : Nat) (t : Turn State Stage Result) : List (Nat × Stage) :=
  match t.next with
  | .waits _ stage => [(number, stage)]
  | .ends _ => []

/-- The entry among the ended calls that a turn of the call with a number leaves. -/
def endsAs (number : Nat) (t : Turn State Stage Result) : List (Nat × Except Failure Result) :=
  match t.next with
  | .waits .. => []
  | .ends r => [(number, r)]

/-- What happens in a turn of the call with a number. -/
def occurrences (number : Nat) (t : Turn State Stage Result) : List (Occurrence State Result) :=
  t.effects.map (.effect number) ++ (questions number t.asks).map (.asked · t.state)
    ++ (t.endsAs number).map fun e => .ended e.1 e.2

/-- Only a turn that ends its call leaves an entry among the ended calls. -/
theorem mem_endsAs {number : Nat} {t : Turn State Stage Result}
    {e : Nat × Except Failure Result} :
    e ∈ t.endsAs number ↔ t.next = .ends e.2 ∧ e.1 = number := by
  unfold endsAs
  cases t.next with
  | waits asks stage => simp
  | ends r =>
    simp only [List.mem_singleton, Next.ends.injEq, Prod.ext_iff]
    exact ⟨fun h => ⟨h.2.symm, h.1⟩, fun h => ⟨h.2, h.1.symm⟩⟩

end Turn

/-- A turn that waits takes its call off the ended ones, and the other way round. -/
theorem Run.after_eq (r : Run State Stage Result) (number : Nat) (t : Turn State Stage Result) :
    r.after number t =
      { run := { r with
          state := t.state
          waiting := (r.waiting.filter fun w => w.1 != number) ++ t.waitsAs number
          ended := r.ended ++ t.endsAs number }
        number, effects := t.effects, asks := t.asks } := by
  unfold Run.after Turn.waitsAs Turn.endsAs Turn.asks
  cases t.next <;> simp

/-- The questions of a call stand at the places of what it asks. -/
theorem mem_questions {number : Nat} {asks : List Ask} {q : Question} :
    q ∈ questions number asks ↔ q.number = number ∧ asks[q.place]? = some q.ask := by
  simp only [questions, List.mem_map, Prod.exists, List.mem_zipIdx_iff_getElem?]
  constructor
  · rintro ⟨ask, place, hask, rfl⟩
    exact ⟨rfl, hask⟩
  · rintro ⟨rfl, hask⟩
    exact ⟨q.ask, q.place, hask, rfl⟩

/-- The questions of a call carry its number. -/
theorem number_of_mem_questions {number : Nat} {asks : List Ask} {q : Question}
    (h : q ∈ questions number asks) : q.number = number := (mem_questions.mp h).1

@[simp] theorem questions_nil (number : Nat) : questions number [] = [] := rfl

@[simp] theorem questions_singleton (number : Nat) (a : Ask) :
    questions number [a] = [⟨number, 0, a⟩] := rfl

/-- A single question asks what is asked. -/
theorem ask_of_mem_singleton {number : Nat} {ask : Ask} {q : Question}
    (hq : q ∈ questions number [ask]) : q.ask = ask := by
  rw [questions_singleton, List.mem_singleton] at hq
  rw [hq]

/-- An answer that does not fit leaves a single question open. -/
theorem isAnsweredBy_singleton {number : Nat} {ask : Ask} {a : Answer}
    (h : a.fits 0 ask = false) : ∀ q ∈ questions number [ask], q.isAnsweredBy number a = false := by
  intro q hq
  rw [questions_singleton, List.mem_singleton] at hq
  rw [hq, Question.isAnsweredBy, h, Bool.and_false]

/-- The answer to a single question fits it and leaves nothing open. -/
theorem fits_of_singleton {number : Nat} {ask : Ask} {a : Answer}
    (h : ∃ q ∈ questions number [ask], q.isAnsweredBy number a = true) :
    a.fits 0 ask = true ∧
      ((questions number [ask]).filter fun q => !q.isAnsweredBy number a) = [] := by
  obtain ⟨q, hq, ha⟩ := h
  rw [questions_singleton, List.mem_singleton] at hq
  subst hq
  exact ⟨by simpa [Question.isAnsweredBy] using ha, by simp [ha]⟩

/-- The members of a list with at most one are the same. -/
theorem eq_of_mem_of_length_le_one {α : Type} {l : List α} (h : l.length ≤ 1) {a b : α}
    (ha : a ∈ l) (hb : b ∈ l) : a = b := by
  match l, h with
  | [], _ => exact absurd ha List.not_mem_nil
  | [c], _ => exact (List.mem_singleton.mp ha).trans (List.mem_singleton.mp hb).symm

/-- An answered question belongs to the call that the answer is given to. -/
theorem Question.number_of_isAnsweredBy {q : Question} {number : Nat} {a : Answer}
    (h : q.isAnsweredBy number a = true) : q.number = number := by
  simp only [Question.isAnsweredBy, Bool.and_eq_true, beq_iff_eq] at h
  exact h.1

/-- The reply to a query answers the question that asks it. -/
theorem Question.isAnsweredBy_reply (number place : Nat) (q : Query) (r : Reply) :
    (⟨number, place, .query q⟩ : Question).isAnsweredBy number (.reply place r) = true := by
  simp [Question.isAnsweredBy, Answer.fits]

namespace Exchange

variable {c : Controller State Call Stage Result} {x : Exchange State Call Stage Result}

/-- Taking over a turn of a run with the same ended calls. -/
theorem follow_after (x : Exchange State Call Stage Result) {r : Run State Stage Result}
    (hr : r.ended = x.run.ended) (number : Nat) (t : Turn State Stage Result) :
    x.follow (r.after number t) =
      { x with
        run := (r.after number t).run
        pending := x.pending ++ questions number t.asks
        history := x.history ++ t.occurrences number } := by
  simp only [follow, Run.after_eq, hr, List.drop_left, Turn.occurrences, List.append_assoc]

/-- The exchange after the first turn of a new call, under the next number. -/
def begins (x : Exchange State Call Stage Result) (call : Call) (t : Turn State Stage Result) :
    Exchange State Call Stage Result :=
  { run :=
      { state := t.state
        waiting := (x.run.waiting.filter fun w => w.1 != x.run.begun) ++ t.waitsAs x.run.begun
        ended := x.run.ended ++ t.endsAs x.run.begun
        begun := x.run.begun + 1 }
    calls := x.calls ++ [call]
    pending := x.pending ++ questions x.run.begun t.asks
    history := x.history ++ t.occurrences x.run.begun }

/-- The exchange after an answer to the call with a number and the turn that it leads to. -/
def continues (x : Exchange State Call Stage Result) (number : Nat) (a : Answer)
    (t : Turn State Stage Result) : Exchange State Call Stage Result :=
  { run :=
      { state := t.state
        waiting := (x.run.waiting.filter fun w => w.1 != number) ++ t.waitsAs number
        ended := x.run.ended ++ t.endsAs number
        begun := x.run.begun }
    calls := x.calls
    pending := (x.pending.filter fun q => !q.isAnsweredBy number a) ++ questions number t.asks
    history := x.history ++ (x.pending.filter (·.isAnsweredBy number a)).map (.answered · a)
      ++ t.occurrences number }

/-- The exchange after a call that is turned away: it has some effects and a result at once, and
neither the state nor what is open changes. -/
def turnedAway (x : Exchange State Call Stage Result) (call : Call) (effects : List Effect)
    (r : Except Failure Result) : Exchange State Call Stage Result :=
  { x with
    run := { x.run with
      ended := x.run.ended ++ [(x.run.begun, r)]
      begun := x.run.begun + 1 }
    calls := x.calls ++ [call]
    history := x.history ++ effects.map (.effect x.run.begun) ++ [.ended x.run.begun r] }

/-- A new call takes its first turn. -/
theorem step_call (call : Call) :
    x.step c (.call call) = x.begins call (c.begin x.run.state call) := by
  simp only [step, Run.step, begins]
  rw [follow_after _ (by rfl), Run.after_eq]

/-- An answer to an open question of a waiting call gives the call its next turn. -/
theorem step_answer {number : Nat} {a : Answer} {q : Question} {stage : Stage}
    (hq : q ∈ x.pending) (ha : q.isAnsweredBy number a = true)
    (hs : x.run.waiting.lookup number = some stage) :
    x.step c (.answer number a) = x.continues number a (c.resume x.run.state stage a) := by
  have hne : (x.pending.filter (·.isAnsweredBy number a)).isEmpty = false :=
    List.isEmpty_eq_false_iff_exists_mem.mpr ⟨q, List.mem_filter.mpr ⟨hq, ha⟩⟩
  simp only [step, hne, Bool.false_eq_true, ite_false, Run.step, hs, continues]
  rw [follow_after _ (by rfl), Run.after_eq]

/-- An answer to nothing that is open changes nothing. -/
theorem step_unasked {number : Nat} {a : Answer}
    (h : ∀ q ∈ x.pending, ¬ q.isAnsweredBy number a = true) :
    x.step c (.answer number a) = x := by
  simp only [step, List.filter_eq_nil_iff.mpr h, List.isEmpty_nil, ite_true]

/-- What holds at first and is kept by every event of a list holds after the list. -/
theorem play_induction {P : Exchange State Call Stage Result → Prop} (events : List (Event Call))
    (h0 : P x) (hs : ∀ y, ∀ e ∈ events, P y → P (y.step c e)) : P (x.play c events) := by
  induction events generalizing x with
  | nil => exact h0
  | cons e rest ih =>
      refine ih (hs x e (List.mem_cons_self ..) h0) fun y e' he' => ?_
      exact hs y e' (List.mem_cons_of_mem _ he')

/-- Playing two lists of events one after the other. -/
theorem play_append (before after : List (Event Call)) :
    x.play c (before ++ after) = (x.play c before).play c after := List.foldl_append ..

section Gather

variable {α : Type}

/-- What events in order bring, each to the exchange that it happens in. -/
def gather (c : Controller State Call Stage Result)
    (brings : Exchange State Call Stage Result → Event Call → List α)
    (x : Exchange State Call Stage Result) : List (Event Call) → List α
  | [] => []
  | e :: rest => brings x e ++ gather c brings (x.step c e) rest

/-- What holds of all that single events bring holds of all that is gathered. -/
theorem forall_mem_gather {brings : Exchange State Call Stage Result → Event Call → List α}
    {P : α → Prop} (h : ∀ y e, ∀ m ∈ brings y e, P m) (events : List (Event Call)) :
    ∀ m ∈ x.gather c brings events, P m := by
  induction events generalizing x with
  | nil => exact List.forall_mem_nil _
  | cons e rest ih =>
    intro m hm
    rcases List.mem_append.mp hm with hnow | hlater
    · exact h x e m hnow
    · exact ih m hlater

end Gather

end Exchange

/-- What the stages of a controller stand for: which calls get there, and which of their questions
are open then. -/
structure Controller.Keeps (c : Controller State Call Stage Result)
    (awaits : Nat → Stage → List Question) (suits : Call → Stage → Prop) : Prop where
  /-- A first turn that waits has asked what its stage awaits. -/
  begin_waits : ∀ {s call asks stage}, (c.begin s call).next = .waits asks stage →
    suits call stage ∧ ∀ n, awaits n stage = questions n asks
  /-- A later turn that waits leaves open what was not answered, besides what it asks. -/
  resume_waits : ∀ {s call stage n a asks stage'}, suits call stage →
    (∃ q ∈ awaits n stage, q.isAnsweredBy n a = true) →
    (c.resume s stage a).next = .waits asks stage' →
    suits call stage' ∧
      awaits n stage' = ((awaits n stage).filter fun q => !q.isAnsweredBy n a) ++ questions n asks
  /-- A call ends only with the answer to its last open question. -/
  resume_ends : ∀ {s call stage n a r}, suits call stage →
    (∃ q ∈ awaits n stage, q.isAnsweredBy n a = true) →
    (c.resume s stage a).next = .ends r →
    ((awaits n stage).filter fun q => !q.isAnsweredBy n a) = []

namespace Exchange

/-- Every waiting call has a number of its own, is at a stage that suits it, and has just the
questions of its stage open. -/
structure Orderly (awaits : Nat → Stage → List Question) (suits : Call → Stage → Prop)
    (x : Exchange State Call Stage Result) : Prop where
  nodup : (x.run.waiting.map Prod.fst).Nodup
  begun : x.calls.length = x.run.begun
  /-- No call waits before it has begun. -/
  waiting_lt : ∀ w ∈ x.run.waiting, w.1 < x.run.begun
  /-- A call that has ended does not wait. -/
  ended_lt : ∀ e ∈ x.run.ended, e.1 < x.run.begun ∧ e.1 ∉ x.run.waiting.map Prod.fst
  /-- Open questions belong to waiting calls. -/
  waiting_of_pending : ∀ q ∈ x.pending, q.number ∈ x.run.waiting.map Prod.fst
  /-- The open questions of a waiting call are those of its stage. -/
  pendingOf : ∀ w ∈ x.run.waiting, x.pendingOf w.1 = awaits w.1 w.2
  /-- A waiting call is at a stage that suits it. -/
  suits : ∀ w ∈ x.run.waiting, ∃ call, x.calls[w.1]? = some call ∧ suits call w.2

variable {awaits : Nat → Stage → List Question} {suits : Call → Stage → Prop}

/-- The numbers that wait after a turn of the call with a number. -/
theorem mem_numbers_after {waiting : List (Nat × Stage)} {n m : Nat}
    {t : Turn State Stage Result} :
    m ∈ ((waiting.filter fun w => w.1 != n) ++ t.waitsAs n).map Prod.fst ↔
      (m ≠ n ∧ m ∈ waiting.map Prod.fst) ∨ (m = n ∧ ∃ asks stage, t.next = .waits asks stage) := by
  have hleft : m ∈ (waiting.filter fun w => w.1 != n).map Prod.fst ↔
      m ≠ n ∧ m ∈ waiting.map Prod.fst := by
    simp only [List.mem_map, List.mem_filter, bne_iff_ne, ne_eq]
    constructor
    · rintro ⟨w, ⟨hw, hne⟩, rfl⟩
      exact ⟨hne, w, hw, rfl⟩
    · rintro ⟨hne, w, hw, rfl⟩
      exact ⟨w, ⟨hw, hne⟩, rfl⟩
  rw [List.map_append, List.mem_append, hleft]
  cases ht : t.next <;> simp [Turn.waitsAs, ht]

/-- A turn of one call keeps an exchange orderly if it leaves the other calls alone and its own
call with just the questions of its stage. -/
theorem Orderly.of_turn {y : Exchange State Call Stage Result} {n : Nat}
    {t : Turn State Stage Result} (h : Orderly awaits suits x)
    (hw : y.run.waiting = (x.run.waiting.filter fun w => w.1 != n) ++ t.waitsAs n)
    (he : y.run.ended = x.run.ended ++ t.endsAs n)
    (hb : x.run.begun ≤ y.run.begun) (hn : n < y.run.begun) (hlen : y.calls.length = y.run.begun)
    (hcalls : ∀ (m : Nat) (call : Call), x.calls[m]? = some call → y.calls[m]? = some call)
    (hfresh : ∀ e ∈ x.run.ended, e.1 ≠ n)
    (hothers : ∀ m : Nat, m ≠ n → y.pendingOf m = x.pendingOf m)
    (hwaits : ∀ asks stage, t.next = .waits asks stage →
      y.pendingOf n = awaits n stage ∧ ∃ call, y.calls[n]? = some call ∧ suits call stage)
    (hends : ∀ r, t.next = .ends r → y.pendingOf n = []) : Orderly awaits suits y := by
  have hmem : ∀ w ∈ y.run.waiting, (w ∈ x.run.waiting ∧ w.1 ≠ n) ∨
      ∃ asks stage, t.next = .waits asks stage ∧ w = (n, stage) := by
    intro w hw'
    rw [hw, List.mem_append, List.mem_filter] at hw'
    rcases hw' with ⟨hin, hne⟩ | hown
    · exact Or.inl ⟨hin, by simpa using hne⟩
    · cases ht : t.next with
      | ends r => simp [Turn.waitsAs, ht] at hown
      | waits asks stage =>
          exact Or.inr ⟨asks, stage, rfl, by simpa [Turn.waitsAs, ht] using hown⟩
  refine ⟨?_, hlen, ?_, ?_, ?_, ?_, ?_⟩
  · rw [hw, List.map_append]
    refine List.nodup_append.mpr ⟨(List.filter_sublist.map _).nodup h.nodup, ?_, ?_⟩
    · cases ht : t.next <;> simp [Turn.waitsAs, ht]
    · intro a ha b hb' hab
      obtain ⟨w, hwf, rfl⟩ := List.mem_map.mp ha
      have hne : w.1 ≠ n := by simpa using (List.mem_filter.mp hwf).2
      cases ht : t.next with
      | ends r => simp [Turn.waitsAs, ht] at hb'
      | waits asks stage => exact hne (hab.trans (by simpa [Turn.waitsAs, ht] using hb'))
  · intro w hw'
    rcases hmem w hw' with ⟨hin, -⟩ | ⟨_, _, -, rfl⟩
    · exact Nat.lt_of_lt_of_le (h.waiting_lt w hin) hb
    · exact hn
  · intro e hin
    rw [hw, mem_numbers_after]
    rcases List.mem_append.mp (he ▸ hin) with hold | hnew
    · obtain ⟨hlt, hnot⟩ := h.ended_lt e hold
      refine ⟨Nat.lt_of_lt_of_le hlt hb, ?_⟩
      rintro (⟨-, hin'⟩ | ⟨heq, -⟩)
      · exact hnot hin'
      · exact hfresh e hold heq
    · cases ht : t.next with
      | waits asks stage => simp [Turn.endsAs, ht] at hnew
      | ends r =>
          have hen : e = (n, r) := by simpa [Turn.endsAs, ht] using hnew
          subst hen
          refine ⟨hn, ?_⟩
          rintro (⟨hne, -⟩ | ⟨-, _, _, hwaits'⟩)
          · exact hne rfl
          · cases hwaits'
  · intro q hq
    rw [hw, mem_numbers_after]
    by_cases hqn : q.number = n
    · refine Or.inr ⟨hqn, ?_⟩
      have hq' : q ∈ y.pendingOf n := List.mem_filter.mpr ⟨hq, by simpa using hqn⟩
      cases ht : t.next with
      | waits asks stage => exact ⟨asks, stage, rfl⟩
      | ends r => simp [hends r ht] at hq'
    · have hq' : q ∈ y.pendingOf q.number := List.mem_filter.mpr ⟨hq, by simp⟩
      rw [hothers _ hqn] at hq'
      exact Or.inl ⟨hqn, h.waiting_of_pending q (List.mem_filter.mp hq').1⟩
  · intro w hw'
    rcases hmem w hw' with ⟨hin, hne⟩ | ⟨asks, stage, ht, rfl⟩
    · rw [hothers _ hne, h.pendingOf w hin]
    · exact (hwaits asks stage ht).1
  · intro w hw'
    rcases hmem w hw' with ⟨hin, -⟩ | ⟨asks, stage, ht, rfl⟩
    · obtain ⟨call, hcall, hsuits⟩ := h.suits w hin
      exact ⟨call, hcalls _ _ hcall, hsuits⟩
    · exact (hwaits asks stage ht).2

/-- An exchange in which nothing has happened is orderly. -/
theorem orderly_start (s : State) :
    Orderly awaits suits (start s : Exchange State Call Stage Result) :=
  ⟨List.nodup_nil, rfl, List.forall_mem_nil _, List.forall_mem_nil _, List.forall_mem_nil _,
    List.forall_mem_nil _, List.forall_mem_nil _⟩

/-- A number that has not been given yet has no open questions. -/
theorem Orderly.pendingOf_begun (h : Orderly awaits suits x) : x.pendingOf x.run.begun = [] := by
  refine List.filter_eq_nil_iff.mpr fun q hq hn => ?_
  obtain ⟨w, hw, he⟩ := List.mem_map.mp (h.waiting_of_pending q hq)
  have hlt := h.waiting_lt w hw
  have hnum : q.number = x.run.begun := by simpa using hn
  omega

/-- The waiting calls are untouched by taking out a number that has not been given yet. -/
theorem Orderly.filter_begun (h : Orderly awaits suits x) :
    (x.run.waiting.filter fun w => w.1 != x.run.begun) = x.run.waiting := by
  refine List.filter_eq_self.mpr fun w hw => ?_
  have hlt := h.waiting_lt w hw
  simp only [bne_iff_ne, ne_eq]
  omega

/-- A call whose first turn ends it and leaves the state alone is turned away. -/
theorem Orderly.begins_of_finish (h : Orderly awaits suits x) (call : Call)
    (effects : List Effect) (r : Except Failure Result) :
    x.begins call ((Turn.finish x.run.state r).after effects) = x.turnedAway call effects r := by
  simp only [begins, turnedAway, h.filter_begun, Turn.after, Turn.finish, Turn.waitsAs,
    Turn.endsAs, Turn.asks, Turn.occurrences, questions_nil, List.map_nil, List.map_cons,
    List.append_nil, List.append_assoc]

private theorem filter_questions_self (n : Nat) (asks : List Ask) :
    (questions n asks).filter (·.number == n) = questions n asks :=
  List.filter_eq_self.mpr fun q hq => by simpa using number_of_mem_questions hq

private theorem filter_questions_other {m n : Nat} (hm : m ≠ n) (asks : List Ask) :
    (questions n asks).filter (·.number == m) = [] := by
  refine List.filter_eq_nil_iff.mpr fun q hq => ?_
  rw [number_of_mem_questions hq]
  simpa using Ne.symm hm

/-- A new call keeps an exchange orderly. -/
theorem Orderly.step_call (hc : c.Keeps awaits suits) (h : Orderly awaits suits x) (call : Call) :
    Orderly awaits suits (x.step c (.call call)) := by
  have hown (asks : List Ask) :
      (x.pending ++ questions x.run.begun asks).filter (·.number == x.run.begun) =
        questions x.run.begun asks := by
    rw [List.filter_append, filter_questions_self, ← Exchange.pendingOf, h.pendingOf_begun,
      List.nil_append]
  rw [Exchange.step_call]
  refine h.of_turn rfl rfl (Nat.le_succ _) (Nat.lt_succ_self _) ?_ ?_ ?_ ?_ ?_ ?_
  · simp [Exchange.begins, h.begun]
  · intro m call' hm
    exact (List.getElem?_append_left (List.getElem?_eq_some_iff.mp hm).1).trans hm
  · intro e he heq
    exact absurd (h.ended_lt e he).1 (by omega)
  · intro m hm
    simp only [Exchange.pendingOf, Exchange.begins, List.filter_append, filter_questions_other hm,
      List.append_nil]
  · intro asks stage ht
    have hasks : (c.begin x.run.state call).asks = asks := by simp only [Turn.asks, ht]
    obtain ⟨hsuits, hawaits⟩ := hc.begin_waits ht
    refine ⟨?_, call, ?_, hsuits⟩
    · simp only [Exchange.pendingOf, Exchange.begins, hown, hasks, hawaits]
    · rw [← h.begun]
      exact List.getElem?_concat_length
  · intro r ht
    have hasks : (c.begin x.run.state call).asks = [] := by simp only [Turn.asks, ht]
    simpa only [Exchange.pendingOf, Exchange.begins, hasks, questions_nil] using hown []

/-- A waiting call is found under its number. -/
theorem Orderly.lookup (h : Orderly awaits suits x) {n : Nat} {stage : Stage}
    (hw : (n, stage) ∈ x.run.waiting) : x.run.waiting.lookup n = some stage := by
  obtain ⟨before, after, heq⟩ := List.append_of_mem hw
  refine List.lookup_eq_some_iff.mpr ⟨before, after, heq, fun p hp => ?_⟩
  have hnd := h.nodup
  rw [heq, List.map_append, List.map_cons, List.nodup_append] at hnd
  simpa using (hnd.2.2 p.1 (List.mem_map_of_mem hp) n (List.mem_cons_self ..)).symm

/-- An open question belongs to a waiting call, at a stage that awaits it. -/
theorem Orderly.exists_stage (h : Orderly awaits suits x) {q : Question} (hq : q ∈ x.pending) :
    ∃ stage, (q.number, stage) ∈ x.run.waiting ∧ q ∈ awaits q.number stage := by
  obtain ⟨w, hw, he⟩ := List.mem_map.mp (h.waiting_of_pending q hq)
  obtain ⟨n, stage⟩ := w
  obtain rfl : n = q.number := he
  refine ⟨stage, hw, ?_⟩
  rw [← h.pendingOf _ hw]
  exact List.mem_filter.mpr ⟨hq, by simp⟩

/-- An answer either changes nothing or is the answer to a question that the stage of its call
awaits, and the call has its next turn. -/
theorem Orderly.answer_cases (h : Orderly awaits suits x) (c : Controller State Call Stage Result)
    (n : Nat) (a : Answer) :
    x.step c (.answer n a) = x ∨
      ∃ q stage, q ∈ x.pending ∧ q.isAnsweredBy n a = true ∧ (n, stage) ∈ x.run.waiting ∧
        q ∈ awaits n stage ∧
        x.step c (.answer n a) = x.continues n a (c.resume x.run.state stage a) := by
  by_cases hopen : ∃ q ∈ x.pending, q.isAnsweredBy n a = true
  · obtain ⟨q, hq, hans⟩ := hopen
    obtain rfl : q.number = n := Question.number_of_isAnsweredBy hans
    obtain ⟨stage, hw, haw⟩ := h.exists_stage hq
    exact Or.inr ⟨q, stage, hq, hans, hw, haw, Exchange.step_answer hq hans (h.lookup hw)⟩
  · exact Or.inl (step_unasked fun q hq hans => hopen ⟨q, hq, hans⟩)

/-- An answer keeps an exchange orderly, whatever it answers. -/
theorem Orderly.step_answer (hc : c.Keeps awaits suits) (h : Orderly awaits suits x) (n : Nat)
    (a : Answer) : Orderly awaits suits (x.step c (.answer n a)) := by
  rcases h.answer_cases c n a with hsame | ⟨q, stage, hq, hans, hw, haw, hstep⟩
  · rwa [hsame]
  · obtain ⟨call, hcall, hsuits⟩ := h.suits _ hw
    have hown (asks : List Ask) :
        ((x.pending.filter fun p => !p.isAnsweredBy n a) ++ questions n asks).filter
            (·.number == n) =
          ((awaits n stage).filter fun p => !p.isAnsweredBy n a) ++ questions n asks := by
      rw [List.filter_append, filter_questions_self, ← h.pendingOf _ hw, Exchange.pendingOf,
        List.filter_filter, List.filter_filter]
      simp only [Bool.and_comm]
    rw [hstep]
    refine h.of_turn rfl rfl (Nat.le_refl _) (h.waiting_lt _ hw) h.begun (fun _ _ => id) ?_ ?_ ?_ ?_
    · intro e he heq
      exact (h.ended_lt e he).2 (heq ▸ List.mem_map_of_mem hw)
    · intro m hm
      simp only [Exchange.pendingOf, Exchange.continues, List.filter_append,
        filter_questions_other hm, List.append_nil, List.filter_filter]
      refine List.filter_congr fun p _ => ?_
      by_cases hp : p.number = m
      · have hne : p.isAnsweredBy n a = false := by
          refine Bool.eq_false_iff.mpr fun ht => hm ?_
          exact hp.symm.trans (Question.number_of_isAnsweredBy ht)
        simp [hp, hne]
      · simp [hp]
    · intro asks stage' ht
      have hasks : (c.resume x.run.state stage a).asks = asks := by simp only [Turn.asks, ht]
      obtain ⟨hsuits', hawaits⟩ := hc.resume_waits hsuits ⟨q, haw, hans⟩ ht
      refine ⟨?_, call, hcall, hsuits'⟩
      simp only [Exchange.pendingOf, Exchange.continues, hown, hasks, hawaits]
    · intro r ht
      have hasks : (c.resume x.run.state stage a).asks = [] := by simp only [Turn.asks, ht]
      have hleft := hown []
      rw [hc.resume_ends hsuits ⟨q, haw, hans⟩ ht, List.nil_append] at hleft
      simpa only [Exchange.pendingOf, Exchange.continues, hasks, questions_nil] using hleft

/-- Every event keeps an exchange orderly. -/
theorem Orderly.step (hc : c.Keeps awaits suits) (h : Orderly awaits suits x) (e : Event Call) :
    Orderly awaits suits (x.step c e) := by
  cases e with
  | call call => exact h.step_call hc call
  | answer n a => exact h.step_answer hc n a

/-- An exchange is orderly after all events. -/
theorem orderly_play (hc : c.Keeps awaits suits) (s : State) (events : List (Event Call)) :
    Orderly awaits suits ((start s).play c events) :=
  play_induction events (orderly_start s) fun _ e _ h => h.step hc e

/-- A part of the state that every event makes the last of what it brings is after all events the
last of all that is gathered. -/
theorem Orderly.play_getLast (hc : c.Keeps awaits suits) (part : State → α)
    {brings : Exchange State Call Stage Result → Event Call → List α}
    (hstep : ∀ {y}, Orderly awaits suits y → ∀ e,
      part (y.step c e).run.state = (brings y e).getLast?.getD (part y.run.state))
    (h : Orderly awaits suits x) (events : List (Event Call)) :
    part (x.play c events).run.state =
      (x.gather c brings events).getLast?.getD (part x.run.state) := by
  induction events generalizing x with
  | nil => rfl
  | cons e rest ih =>
    rw [gather, List.getLast?_append, Option.getD_or, ← hstep h]
    exact ih (h.step hc e)

end Exchange

end VoucherDesk.Dialogue
