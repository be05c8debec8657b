import VoucherDesk.Proofs.Dialogue.Deeds

/-!
# The course of a call

The turns of a call find states that other calls may have changed meanwhile. Where the others
keep a property of the state, and the turns of the call are the same for all states that have
it, what the call does is decided by the answers to it, in whatever way the other calls and
the answers to them come in between.
-/

namespace VoucherDesk.Dialogue

variable {State Call Stage Result : Type}

/-- While the state has a property, all calls that begin keep it and get to no stage of a certain
kind, and so do all calls at other stages. -/
structure Controller.Tolerates (c : Controller State Call Stage Result) (I : State → Prop)
    (own : Stage → Bool) : Prop where
  begin : ∀ {s} call, I s → I (c.begin s call).state ∧ (c.begin s call).isAt own = false
  resume : ∀ {s stage} a, I s → own stage = false →
    I (c.resume s stage a).state ∧ (c.resume s stage a).isAt own = false

/-- Where nothing is asked of the state and no stage is singled out, all calls keep to that. -/
theorem Controller.tolerates_all (c : Controller State Call Stage Result) :
    c.Tolerates (fun _ => True) (fun _ => false) := by
  have hnever (t : Turn State Stage Result) : t.isAt (fun _ => false) = false := by
    unfold Turn.isAt
    split <;> rfl
  exact ⟨fun _ _ => ⟨trivial, hnever _⟩, fun _ _ _ => ⟨trivial, hnever _⟩⟩

/-- What a call does from a turn on when it is given answers in order, whatever states with a
property it finds. -/
inductive Course (c : Controller State Call Stage Result) (awaits : Nat → Stage → List Question)
    (I : State → Prop) : Turn State Stage Result → List Answer → List (Deed Result) → Prop where
  /-- The turn ends the call. -/
  | ends (t : Turn State Stage Result) (r : Except Failure Result) (next : t.next = .ends r) :
      Course c awaits I t [] t.deeds
  /-- The turn waits for an answer, with which the call goes on. -/
  | waits (t : Turn State Stage Result) (asks : List Ask) (stage : Stage) (a : Answer)
      (rest : List Answer) (deeds : List (Deed Result)) (next : t.next = .waits asks stage)
      (state : I t.state) (fits : ∀ n, ∃ q ∈ awaits n stage, q.isAnsweredBy n a = true)
      (goesOn : ∀ s, I s → Course c awaits I (c.resume s stage a) rest deeds) :
      Course c awaits I t (a :: rest) (t.deeds ++ deeds)

/-- A turn that waits leaves a state that has the property. -/
theorem Course.state {c : Controller State Call Stage Result}
    {awaits : Nat → Stage → List Question} {I : State → Prop} {t : Turn State Stage Result}
    {answers : List Answer} {deeds : List (Deed Result)} (h : Course c awaits I t answers deeds)
    {asks : List Ask} {stage : Stage} (hnext : t.next = .waits asks stage) : I t.state := by
  cases h with
  | ends _ r next => cases next.symm.trans hnext
  | waits _ asks stage a rest deeds next state fits goesOn => exact state

/-- Effects before those of a turn are the first that a call does from the turn on. -/
theorem Course.after {c : Controller State Call Stage Result}
    {awaits : Nat → Stage → List Question} {I : State → Prop} {t : Turn State Stage Result}
    {answers : List Answer} {deeds : List (Deed Result)} (h : Course c awaits I t answers deeds)
    (effects : List Effect) :
    Course c awaits I (t.after effects) answers (effects.filterMap Effect.deed? ++ deeds) := by
  cases h with
  | ends _ r next =>
    rw [← Turn.deeds_after]
    exact .ends _ r next
  | waits _ asks stage a rest deeds next state fits goesOn =>
    rw [← List.append_assoc, ← Turn.deeds_after]
    exact .waits _ asks stage a rest deeds next state fits goesOn

namespace Exchange

variable {c : Controller State Call Stage Result} {x : Exchange State Call Stage Result}
  {awaits : Nat → Stage → List Question} {suits : Call → Stage → Prop} {I : State → Prop}
  {own : Stage → Bool} {n : Nat} {stage : Stage} {t : Turn State Stage Result}

/-- The call with a number waits at a stage, the state has a property, and no other call is at a
stage of a certain kind. -/
structure WaitsAt (awaits : Nat → Stage → List Question) (suits : Call → Stage → Prop)
    (I : State → Prop) (own : Stage → Bool) (n : Nat) (stage : Stage)
    (x : Exchange State Call Stage Result) : Prop where
  orderly : x.Orderly awaits suits
  waiting : (n, stage) ∈ x.run.waiting
  state : I x.run.state
  others : ∀ w ∈ x.run.waiting, w.1 ≠ n → own w.2 = false

/-- The entries that wait after a turn of the call with a number. -/
theorem mem_waiting_after {waiting : List (Nat × Stage)} {m : Nat} {w : Nat × Stage} :
    w ∈ (waiting.filter fun w => w.1 != m) ++ t.waitsAs m ↔
      (w ∈ waiting ∧ w.1 ≠ m) ∨ (w.1 = m ∧ ∃ asks, t.next = .waits asks w.2) := by
  rw [List.mem_append, List.mem_filter, bne_iff_ne]
  refine or_congr_right ?_
  unfold Turn.waitsAs
  cases t.next with
  | ends r => simp
  | waits asks stage =>
    simp only [List.mem_singleton, Prod.ext_iff, Next.waits.injEq, exists_and_right, exists_eq',
      true_and]
    exact and_congr_right fun _ => eq_comm

/-- A turn at no stage of a kind leaves no call at one. -/
theorem own_of_isAt {asks : List Ask} (h : t.isAt own = false)
    (hnext : t.next = .waits asks stage) : own stage = false := by
  simpa only [Turn.isAt, hnext] using h

/-- Whatever other calls begin and are told, a call that waits is left where it is. -/
theorem WaitsAt.step_other (hc : c.Keeps awaits suits) (ht : c.Tolerates I own)
    (h : WaitsAt awaits suits I own n stage x) {e : Event Call} (he : e.answerTo? n = none) :
    WaitsAt awaits suits I own n stage (x.step c e) ∧ (x.step c e).deedsOf n = x.deedsOf n := by
  have horderly := h.orderly.step hc e
  cases e with
  | call call =>
    have hne : n ≠ x.run.begun := Nat.ne_of_lt (h.orderly.waiting_lt _ h.waiting)
    obtain ⟨hstate, hat⟩ := ht.begin call h.state
    rw [Exchange.step_call] at horderly ⊢
    refine ⟨⟨horderly, mem_waiting_after.mpr (Or.inl ⟨h.waiting, hne⟩), hstate, ?_⟩, ?_⟩
    · intro w hw hwn
      rcases mem_waiting_after.mp hw with ⟨hold, -⟩ | ⟨-, asks, hnext⟩
      · exact h.others w hold hwn
      · exact own_of_isAt hat hnext
    · rw [deedsOf_begins, if_neg hne.symm, List.append_nil]
  | answer m a =>
    rcases h.orderly.answer_cases c m a with hsame | ⟨q, stage', -, -, hw', -, hstep⟩
    · rw [hsame]
      exact ⟨h, rfl⟩
    · have hne : m ≠ n := by
        rintro rfl
        simp [Event.answerTo?] at he
      obtain ⟨hstate, hat⟩ := ht.resume a h.state (h.others _ hw' hne)
      rw [hstep] at horderly ⊢
      refine ⟨⟨horderly, mem_waiting_after.mpr (Or.inl ⟨h.waiting, hne.symm⟩), hstate, ?_⟩, ?_⟩
      · intro w hw hwn
        rcases mem_waiting_after.mp hw with ⟨hold, -⟩ | ⟨-, asks, hnext⟩
        · exact h.others w hold hwn
        · exact own_of_isAt hat hnext
      · rw [deedsOf_continues, if_neg hne, List.append_nil]

/-- Whatever other calls do in a row, a call that waits is left where it is. -/
theorem WaitsAt.play_others (hc : c.Keeps awaits suits) (ht : c.Tolerates I own)
    (h : WaitsAt awaits suits I own n stage x) {events : List (Event Call)}
    (hevents : ∀ e ∈ events, e.answerTo? n = none) :
    WaitsAt awaits suits I own n stage (x.play c events) ∧
      (x.play c events).deedsOf n = x.deedsOf n :=
  play_induction (P := fun y => WaitsAt awaits suits I own n stage y ∧ y.deedsOf n = x.deedsOf n)
    events ⟨h, rfl⟩ fun y e hmem hy => by
      obtain ⟨hwaits, hdeeds⟩ := hy.1.step_other hc ht (hevents e hmem)
      exact ⟨hwaits, hdeeds.trans hy.2⟩

/-- Events up to the next answer to a call that waits, and those after it. -/
theorem WaitsAt.exists_next (hc : c.Keeps awaits suits) (ht : c.Tolerates I own)
    (h : WaitsAt awaits suits I own n stage x) {events : List (Event Call)} {a : Answer}
    {rest : List Answer} (hevents : events.filterMap (Event.answerTo? n) = a :: rest) :
    ∃ y later, WaitsAt awaits suits I own n stage y ∧ y.deedsOf n = x.deedsOf n ∧
      x.play c events = (y.step c (.answer n a)).play c later ∧
      later.filterMap (Event.answerTo? n) = rest := by
  obtain ⟨before, e, later, rfl, hbefore, he, hlater⟩ := List.filterMap_eq_cons_iff.mp hevents
  obtain ⟨hwaits, hdeeds⟩ := h.play_others hc ht hbefore
  refine ⟨_, later, hwaits, hdeeds, ?_, hlater⟩
  cases e with
  | call call => cases he
  | answer m b =>
    have hsame : m = n ∧ b = a := by simpa [Event.answerTo?] using he
    rw [hsame.1, hsame.2, play_append]
    rfl

/-- The call with a number has just had a turn: it waits at the stage of the turn, or has ended. -/
structure After (awaits : Nat → Stage → List Question) (suits : Call → Stage → Prop)
    (I : State → Prop) (own : Stage → Bool) (n : Nat) (t : Turn State Stage Result)
    (x : Exchange State Call Stage Result) : Prop where
  orderly : x.Orderly awaits suits
  waits : ∀ {asks stage}, t.next = .waits asks stage → WaitsAt awaits suits I own n stage x
  ends : ∀ {r}, t.next = .ends r → x.HasEnded n

/-- An answer to an open question of a call that waits goes to its stage. -/
theorem WaitsAt.step_answer (h : WaitsAt awaits suits I own n stage x) {q : Question} {a : Answer}
    (hq : q ∈ awaits n stage) (hans : q.isAnsweredBy n a = true) :
    x.step c (.answer n a) = x.continues n a (c.resume x.run.state stage a) := by
  rw [← h.orderly.pendingOf _ h.waiting] at hq
  exact Exchange.step_answer (List.mem_filter.mp hq).1 hans (h.orderly.lookup h.waiting)

/-- An answer to an open question of a call gives it its next turn. -/
theorem WaitsAt.step_own (hc : c.Keeps awaits suits) (h : WaitsAt awaits suits I own n stage x)
    {q : Question} {a : Answer} (hq : q ∈ awaits n stage) (hans : q.isAnsweredBy n a = true)
    (hstate : ∀ {asks stage'}, (c.resume x.run.state stage a).next = .waits asks stage' →
      I (c.resume x.run.state stage a).state) :
    After awaits suits I own n (c.resume x.run.state stage a) (x.step c (.answer n a)) ∧
      (x.step c (.answer n a)).deedsOf n =
        x.deedsOf n ++ (c.resume x.run.state stage a).deeds := by
  have hstep := h.step_answer (c := c) hq hans
  have horderly := h.orderly.step hc (.answer n a)
  refine ⟨⟨horderly, fun {asks stage'} hnext => ⟨horderly, ?_, ?_, fun w hw hwn => ?_⟩,
    fun {r} hnext => ⟨?_, fun hin => ?_⟩⟩, ?_⟩
  · rw [hstep]
    exact mem_waiting_after.mpr (Or.inr ⟨rfl, asks, hnext⟩)
  · rw [hstep]
    exact hstate hnext
  · rw [hstep] at hw
    rcases mem_waiting_after.mp hw with ⟨hold, -⟩ | ⟨heq, -⟩
    · exact h.others w hold hwn
    · exact absurd heq hwn
  · rw [hstep]
    exact h.orderly.waiting_lt _ h.waiting
  · rw [hstep] at hin
    rcases mem_numbers_after.mp hin with ⟨hne, -⟩ | ⟨-, asks, stage', hwaits⟩
    · exact hne rfl
    · cases hnext.symm.trans hwaits
  · rw [hstep, deedsOf_continues, if_pos rfl]

/-- A call that begins while no other call is at a stage of a kind has its first turn. -/
theorem Orderly.after_begin (hc : c.Keeps awaits suits) (h : x.Orderly awaits suits)
    (hothers : ∀ w ∈ x.run.waiting, own w.2 = false) (call : Call)
    (hstate : ∀ {asks stage}, (c.begin x.run.state call).next = .waits asks stage →
      I (c.begin x.run.state call).state) :
    After awaits suits I own x.run.begun (c.begin x.run.state call) (x.step c (.call call)) ∧
      (x.step c (.call call)).deedsOf x.run.begun =
        x.deedsOf x.run.begun ++ (c.begin x.run.state call).deeds := by
  have horderly := h.step hc (.call call)
  rw [Exchange.step_call] at horderly ⊢
  refine ⟨⟨horderly, fun {asks stage} hnext => ⟨horderly, ?_, hstate hnext, fun w hw hwn => ?_⟩,
    fun {r} hnext => ⟨Nat.lt_succ_self _, fun hin => ?_⟩⟩, ?_⟩
  · exact mem_waiting_after.mpr (Or.inr ⟨rfl, asks, hnext⟩)
  · rcases mem_waiting_after.mp hw with ⟨hold, -⟩ | ⟨heq, -⟩
    · exact hothers w hold
    · exact absurd heq hwn
  · rcases mem_numbers_after.mp hin with ⟨hne, -⟩ | ⟨-, asks, stage, hwaits⟩
    · exact hne rfl
    · cases hnext.symm.trans hwaits
  · rw [deedsOf_begins, if_pos rfl]

/-- A call does what its course says, however other calls and the answers to them are interleaved
with the answers to it. -/
theorem deedsOf_course (hc : c.Keeps awaits suits) (htol : c.Tolerates I own)
    {answers : List Answer} {deeds : List (Deed Result)}
    (hcourse : Course c awaits I t answers deeds) (h : After awaits suits I own n t x)
    {past : List (Deed Result)} (hpast : x.deedsOf n = past ++ t.deeds) {events : List (Event Call)}
    (hevents : events.filterMap (Event.answerTo? n) = answers) :
    (x.play c events).deedsOf n = past ++ deeds := by
  induction hcourse generalizing x past events with
  | ends t r next => rw [h.orderly.deedsOf_play hc (h.ends next), hpast]
  | waits t asks stage a rest deeds next state fits goesOn ih =>
    obtain ⟨y, later, hy, hydeeds, hplay, hlater⟩ := (h.waits next).exists_next hc htol hevents
    obtain ⟨q, hq, hans⟩ := fits n
    obtain ⟨hafter, hown⟩ := hy.step_own hc hq hans (goesOn _ hy.state).state
    have hpast' : (y.step c (.answer n a)).deedsOf n =
        (past ++ t.deeds) ++ (c.resume y.run.state stage a).deeds := by
      rw [hown, hydeeds, hpast]
    rw [hplay, ih y.run.state hy.state hafter hpast' hlater, List.append_assoc]

end Exchange

end VoucherDesk.Dialogue
