import VoucherDesk.Proofs.Dialogue.Order

/-!
# A call with a server

A single call has its queries answered by a server that keeps something of its own. A query is
served at any time while it is open, and what the server keeps may change with every reply.
Where each turn of the call leads from one phase to the next, the call is always in a phase
until it ends, and nothing happens afterwards. Where each turn leads to a phase from which
fewer answers are taken, the call ends however it is served.
-/

namespace VoucherDesk.Dialogue

variable {State Call Stage Result World : Type}

/-- The exchanges of a single call with a server, and what the server keeps after them. -/
inductive Served (c : Controller State Call Stage Result)
    (serves : World → Query → Reply → World → Prop) (s : State) (call : Call) (w : World) :
    Exchange State Call Stage Result → World → Prop where
  /-- The call begins. -/
  | begins : Served c serves s call w ((Exchange.start s).step c (.call call)) w
  /-- The server replies to an open query. -/
  | replies {x : Exchange State Call Stage Result} {v v' : World} {q : Question} {query : Query}
      {r : Reply} (before : Served c serves s call w x v) (isOpen : q ∈ x.pending)
      (asks : q.ask = .query query) (reply : serves v query r v') :
      Served c serves s call w (x.step c (.answer q.number (.reply q.place r))) v'
  /-- A pause of the call ends. -/
  | resumes {x : Exchange State Call Stage Result} {v : World} {q : Question}
      (before : Served c serves s call w x v) (isOpen : q ∈ x.pending) (pauses : q.ask = .pause) :
      Served c serves s call w (x.step c (.answer q.number .resumed)) v

/-- Where a turn of a call leads that has questions left open: to a phase, or to an end. -/
def Turn.Leads (phase : Stage → State → List Question → World → Prop)
    (ends : State → Except Failure Result → World → Prop) (left : List Question)
    (t : Turn State Stage Result) (w : World) : Prop :=
  match t.next with
  | .waits asks stage => phase stage t.state (left ++ questions 0 asks) w
  | .ends r => left = [] ∧ ends t.state r w

/-- A single call waits at a stage, with a state and open questions. -/
structure WaitsAlone (x : Exchange State Call Stage Result) (stage : Stage) (s : State)
    (pending : List Question) : Prop where
  waiting : x.run.waiting = [(0, stage)]
  state : x.run.state = s
  isOpen : x.pending = pending
  /-- All questions are those of the call. -/
  numbers : ∀ q ∈ pending, q.number = 0
  ended : x.run.ended = []

/-- A single call has ended and left a state, with no question open. -/
structure HasEnded (x : Exchange State Call Stage Result) (s : State) (r : Except Failure Result) :
    Prop where
  ended : x.run.ended = [(0, r)]
  state : x.run.state = s
  pending : x.pending = []

section Turns

variable {c : Controller State Call Stage Result} {x : Exchange State Call Stage Result}
  {s : State} {call : Call} {stage stage' : Stage} {asks : List Ask} {pending : List Question}
  {q : Question} {a : Answer} {r : Except Failure Result}

/-- A call waits where its first turn leaves it. -/
theorem waitsAlone_begin (hnext : (c.begin s call).next = .waits asks stage) :
    WaitsAlone ((Exchange.start s).step c (.call call)) stage (c.begin s call).state
      (questions 0 asks) := by
  have hasks : (c.begin s call).asks = asks := by simp only [Turn.asks, hnext]
  rw [Exchange.step_call]
  refine ⟨?_, rfl, ?_, fun q hq => number_of_mem_questions hq, ?_⟩
  · simp only [Exchange.begins, Exchange.start, Turn.waitsAs, hnext, List.filter_nil,
      List.nil_append]
  · simp only [Exchange.begins, Exchange.start, hasks, List.nil_append]
  · simp only [Exchange.begins, Exchange.start, Turn.endsAs, hnext, List.append_nil]

/-- A call has ended if its first turn ends it. -/
theorem hasEnded_begin (hnext : (c.begin s call).next = .ends r) :
    HasEnded ((Exchange.start s).step c (.call call)) (c.begin s call).state r := by
  have hasks : (c.begin s call).asks = [] := by simp only [Turn.asks, hnext]
  rw [Exchange.step_call]
  refine ⟨?_, rfl, ?_⟩
  · simp only [Exchange.begins, Exchange.start, Turn.endsAs, hnext, List.nil_append]
  · simp only [Exchange.begins, Exchange.start, hasks, questions_nil, List.append_nil]

namespace WaitsAlone

/-- A reply in the place of an open query answers it. -/
theorem isAnsweredBy_reply (h : WaitsAlone x stage s pending) (hq : q ∈ pending) {query : Query}
    (hask : q.ask = .query query) (r : Reply) :
    q.isAnsweredBy 0 (.reply q.place r) = true := by
  simp [Question.isAnsweredBy, h.numbers q hq, hask, Answer.fits]

/-- The end of an open pause answers it. -/
theorem isAnsweredBy_resumed (h : WaitsAlone x stage s pending) (hq : q ∈ pending)
    (hask : q.ask = .pause) : q.isAnsweredBy 0 .resumed = true := by
  simp [Question.isAnsweredBy, h.numbers q hq, hask, Answer.fits]

/-- An answer to an open question gives the call its next turn. -/
theorem step_answer (h : WaitsAlone x stage s pending) (hq : q ∈ pending)
    (hans : q.isAnsweredBy 0 a = true) :
    x.step c (.answer 0 a) = x.continues 0 a (c.resume s stage a) := by
  have hlookup : x.run.waiting.lookup 0 = some stage := by rw [h.waiting]; rfl
  rw [Exchange.step_answer (h.isOpen ▸ hq) hans hlookup, h.state]

/-- A call waits where its next turn leaves it. -/
theorem goesOn (h : WaitsAlone x stage s pending) (hq : q ∈ pending)
    (hans : q.isAnsweredBy 0 a = true) (hnext : (c.resume s stage a).next = .waits asks stage') :
    WaitsAlone (x.step c (.answer 0 a)) stage' (c.resume s stage a).state
      ((pending.filter fun p => !p.isAnsweredBy 0 a) ++ questions 0 asks) := by
  have hasks : (c.resume s stage a).asks = asks := by simp only [Turn.asks, hnext]
  rw [h.step_answer hq hans]
  refine ⟨?_, rfl, ?_, fun p hp => ?_, ?_⟩
  · simp only [Exchange.continues, h.waiting, Turn.waitsAs, hnext]
    rfl
  · simp only [Exchange.continues, h.isOpen, hasks]
  · rcases List.mem_append.mp hp with hold | hnew
    · exact h.numbers p (List.mem_filter.mp hold).1
    · exact number_of_mem_questions hnew
  · simp only [Exchange.continues, h.ended, Turn.endsAs, hnext, List.append_nil]

/-- A call has ended if its next turn ends it and no question is left. -/
theorem ends (h : WaitsAlone x stage s pending) (hq : q ∈ pending)
    (hans : q.isAnsweredBy 0 a = true) (hnext : (c.resume s stage a).next = .ends r)
    (hlast : (pending.filter fun p => !p.isAnsweredBy 0 a) = []) :
    HasEnded (x.step c (.answer 0 a)) (c.resume s stage a).state r := by
  have hasks : (c.resume s stage a).asks = [] := by simp only [Turn.asks, hnext]
  rw [h.step_answer hq hans]
  refine ⟨?_, rfl, ?_⟩
  · simp only [Exchange.continues, h.ended, Turn.endsAs, hnext, List.nil_append]
  · simp only [Exchange.continues, h.isOpen, hasks, hlast, questions_nil, List.append_nil]

end WaitsAlone

end Turns

/-- How a single call stands: it waits in a phase, or it has ended. -/
inductive Stands (phase : Stage → State → List Question → World → Prop)
    (ends : State → Except Failure Result → World → Prop) (x : Exchange State Call Stage Result)
    (w : World) : Prop where
  | waits (stage : Stage) (s : State) (pending : List Question)
      (waits : WaitsAlone x stage s pending) (holds : phase stage s pending w)
  | ended (s : State) (r : Except Failure Result) (ended : HasEnded x s r) (holds : ends s r w)

variable {phase : Stage → State → List Question → World → Prop}
  {ends : State → Except Failure Result → World → Prop} {c : Controller State Call Stage Result}
  {serves : World → Query → Reply → World → Prop} {s : State} {call : Call} {w w' : World}
  {x : Exchange State Call Stage Result}

/-- A call stands as its first turn leaves it. -/
theorem Stands.begins (h : (c.begin s call).Leads phase ends [] w) :
    Stands phase ends ((Exchange.start s).step c (.call call)) w := by
  unfold Turn.Leads at h
  cases hnext : (c.begin s call).next with
  | waits asks stage =>
    rw [hnext] at h
    exact .waits stage _ _ (waitsAlone_begin hnext) h
  | ends r =>
    rw [hnext] at h
    exact .ended _ r (hasEnded_begin hnext) h.2

/-- After an answer to an open question a call stands as its next turn leaves it. -/
theorem Stands.continues {stage : Stage} {pending : List Question}
    (hwaits : WaitsAlone x stage s pending) {q : Question} {a : Answer} (hq : q ∈ pending)
    (hans : q.isAnsweredBy 0 a = true)
    (h : (c.resume s stage a).Leads phase ends (pending.filter fun p => !p.isAnsweredBy 0 a) w) :
    Stands phase ends (x.step c (.answer 0 a)) w := by
  unfold Turn.Leads at h
  cases hnext : (c.resume s stage a).next with
  | waits asks stage' =>
    rw [hnext] at h
    exact .waits stage' _ _ (hwaits.goesOn hq hans hnext) h
  | ends r =>
    rw [hnext] at h
    exact .ended _ r (hwaits.ends hq hans hnext h.1) h.2

/-- Where every turn leads on from each phase, a call with a server always stands in a phase or at
an end. -/
theorem Served.stands (hserved : Served c serves s call w x w')
    (hbegins : (c.begin s call).Leads phase ends [] w)
    (hreplies : ∀ {stage t pending v v' q query r}, phase stage t pending v → q ∈ pending →
      q.isAnsweredBy 0 (.reply q.place r) = true → q.ask = .query query → serves v query r v' →
      (c.resume t stage (.reply q.place r)).Leads phase ends
        (pending.filter fun p => !p.isAnsweredBy 0 (.reply q.place r)) v')
    (hresumes : ∀ {stage t pending v q}, phase stage t pending v → q ∈ pending → q.ask = .pause →
      (c.resume t stage .resumed).Leads phase ends
        (pending.filter fun p => !p.isAnsweredBy 0 .resumed) v) :
    Stands phase ends x w' := by
  induction hserved with
  | begins => exact .begins hbegins
  | @replies _ _ _ q _ r _ isOpen asks reply ih =>
    cases ih with
    | waits stage t pending waits holds =>
      rw [waits.isOpen] at isOpen
      have hans := waits.isAnsweredBy_reply isOpen asks r
      rw [waits.numbers q isOpen]
      exact .continues waits isOpen hans (hreplies holds isOpen hans asks reply)
    | ended t r ended holds =>
      rw [ended.pending] at isOpen
      cases isOpen
  | @resumes _ _ q _ isOpen pauses ih =>
    cases ih with
    | waits stage t pending waits holds =>
      rw [waits.isOpen] at isOpen
      have hans := waits.isAnsweredBy_resumed isOpen pauses
      rw [waits.numbers q isOpen]
      exact .continues waits isOpen hans (hresumes holds isOpen pauses)
    | ended t r ended holds =>
      rw [ended.pending] at isOpen
      cases isOpen

/-- A call that has ended with a result stands at an end with that result. -/
theorem Stands.ends_of_mem (h : Stands phase ends x w) {n : Nat} {r : Except Failure Result}
    (hr : (n, r) ∈ x.run.ended) : ends x.run.state r w := by
  cases h with
  | waits stage s pending waits holds =>
    rw [waits.ended] at hr
    cases hr
  | ended s r' ended holds =>
    rw [ended.ended, List.mem_singleton] at hr
    obtain ⟨-, rfl⟩ := Prod.ext_iff.mp hr
    rw [ended.state]
    exact holds

/-- A call that stands in a phase also stands in every weaker one. -/
theorem Stands.mono {weaker : Stage → State → List Question → World → Prop}
    (h : Stands phase ends x w)
    (hweaker : ∀ {stage t pending v}, phase stage t pending v → weaker stage t pending v) :
    Stands weaker ends x w := by
  cases h with
  | waits stage s pending waits holds => exact .waits stage s pending waits (hweaker holds)
  | ended s r ended holds => exact .ended s r ended holds

/-- A call ends however a server goes on to serve it: it has ended and a goal is reached, or a
question is open, and after every reply to one and every end of a pause the call still ends. -/
inductive Completes (c : Controller State Call Stage Result)
    (serves : World → Query → Reply → World → Prop)
    (goal : State → Except Failure Result → World → Prop) :
    Exchange State Call Stage Result → World → Prop where
  | ended {x : Exchange State Call Stage Result} {w : World} (s : State)
      (r : Except Failure Result) (ended : HasEnded x s r) (holds : goal s r w) :
      Completes c serves goal x w
  | goesOn {x : Exchange State Call Stage Result} {w : World} (isOpen : x.pending ≠ [])
      (replies : ∀ q ∈ x.pending, ∀ query r w', q.ask = .query query → serves w query r w' →
        Completes c serves goal (x.step c (.answer q.number (.reply q.place r))) w')
      (resumes : ∀ q ∈ x.pending, q.ask = .pause →
        Completes c serves goal (x.step c (.answer q.number .resumed)) w) :
      Completes c serves goal x w

namespace Completes

variable {goal : State → Except Failure Result → World → Prop}

/-- A call that ends however it is served still does so at any time while it is served. -/
theorem of_served (h : Completes c serves goal ((Exchange.start s).step c (.call call)) w)
    (hserved : Served c serves s call w x w') : Completes c serves goal x w' := by
  induction hserved with
  | begins => exact h
  | replies before isOpen asks reply ih =>
    cases ih with
    | ended t r ended holds =>
      rw [ended.pending] at isOpen
      cases isOpen
    | goesOn hopen replies resumes => exact replies _ isOpen _ _ _ asks reply
  | resumes before isOpen pauses ih =>
    cases ih with
    | ended t r ended holds =>
      rw [ended.pending] at isOpen
      cases isOpen
    | goesOn hopen replies resumes => exact resumes _ isOpen pauses

/-- Once no question is open the call has ended at its goal. -/
theorem exists_hasEnded (h : Completes c serves goal x w) (hpending : x.pending = []) :
    ∃ t r, HasEnded x t r ∧ goal t r w := by
  cases h with
  | ended t r ended holds => exact ⟨t, r, ended, holds⟩
  | goesOn isOpen replies resumes => exact absurd hpending isOpen

end Completes

/-- Where no phase is without an open question, and every turn leads on to a phase from which fewer
answers are taken, a call that stands in a phase ends however it is served. -/
theorem Stands.completes (h : Stands phase ends x w)
    (hopen : ∀ {stage t pending v}, phase stage t pending v → pending ≠ [])
    (hreplies : ∀ {stage t pending v v' q query r}, phase stage t pending v → q ∈ pending →
      q.isAnsweredBy 0 (.reply q.place r) = true → q.ask = .query query → serves v query r v' →
      (c.resume t stage (.reply q.place r)).Leads
        (fun stage' t' pending' v' =>
          phase stage' t' pending' v' ∧ c.remaining stage' < c.remaining stage) ends
        (pending.filter fun p => !p.isAnsweredBy 0 (.reply q.place r)) v')
    (hresumes : ∀ {stage t pending v q}, phase stage t pending v → q ∈ pending → q.ask = .pause →
      (c.resume t stage .resumed).Leads
        (fun stage' t' pending' v' =>
          phase stage' t' pending' v' ∧ c.remaining stage' < c.remaining stage) ends
        (pending.filter fun p => !p.isAnsweredBy 0 .resumed) v) :
    Completes c serves ends x w := by
  -- The induction is on a bound for the answers that the stage still takes.
  have hbounded (n : Nat) : ∀ {x w},
      Stands (fun stage t pending v => phase stage t pending v ∧ c.remaining stage < n) ends x w →
      Completes c serves ends x w := by
    induction n with
    | zero =>
      intro x w h
      cases h with
      | waits stage t pending waits holds => exact absurd holds.2 (Nat.not_lt_zero _)
      | ended t r ended holds => exact .ended t r ended holds
    | succ n ih =>
      intro x w h
      cases h with
      | ended t r ended holds => exact .ended t r ended holds
      | waits stage t pending waits holds =>
        obtain ⟨hphase, hbound⟩ := holds
        have hfewer {stage' : Stage} {t' : State} {pending' : List Question} {v : World}
            (h' : phase stage' t' pending' v ∧ c.remaining stage' < c.remaining stage) :
            phase stage' t' pending' v ∧ c.remaining stage' < n := ⟨h'.1, by omega⟩
        refine .goesOn ?_ ?_ ?_
        · rw [waits.isOpen]
          exact hopen hphase
        · intro q hq query r w' hask hserves
          rw [waits.isOpen] at hq
          have hans := waits.isAnsweredBy_reply hq hask r
          rw [waits.numbers q hq]
          have hnext := Stands.continues waits hq hans (hreplies hphase hq hans hask hserves)
          exact ih (hnext.mono hfewer)
        · intro q hq hask
          rw [waits.isOpen] at hq
          have hans := waits.isAnsweredBy_resumed hq hask
          rw [waits.numbers q hq]
          have hnext := Stands.continues waits hq hans (hresumes hphase hq hask)
          exact ih (hnext.mono hfewer)
  cases h with
  | ended t r ended holds => exact .ended t r ended holds
  | waits stage t pending waits holds =>
    exact hbounded (c.remaining stage + 1) (.waits stage t pending waits ⟨holds, by omega⟩)

end VoucherDesk.Dialogue
