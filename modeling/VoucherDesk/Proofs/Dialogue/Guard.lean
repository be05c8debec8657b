import VoucherDesk.Proofs.Dialogue.Order

/-!
# Guards

A guard is a flag of the state that a call raises when it gets to certain stages, only while
it is down, and takes down when it leaves them. However the calls are interleaved, the flag is
up just while one call is at such a stage.
-/

namespace VoucherDesk.Dialogue

variable {State Call Stage Result : Type}

/-- A flag of the state that guards certain stages of a controller. -/
structure Controller.Guards (c : Controller State Call Stage Result) (flag : State → Bool)
    (holds : Stage → Bool) : Prop where
  /-- A new call finds the flag down when it gets to a guarded stage. -/
  begin_free : ∀ {s call}, (c.begin s call).isAt holds = true → flag s = false
  /-- A new call raises the flag just when it gets to a guarded stage. -/
  begin_flag : ∀ s call, flag (c.begin s call).state = (flag s || (c.begin s call).isAt holds)
  /-- A call at a guarded stage takes the flag down just when it leaves them. -/
  resume_held : ∀ {s stage} (a : Answer), holds stage = true → flag s = true →
    flag (c.resume s stage a).state = (c.resume s stage a).isAt holds
  /-- A call at any other stage leaves the flag alone and gets to no guarded stage. -/
  resume_free : ∀ {s stage} (a : Answer), holds stage = false →
    flag (c.resume s stage a).state = flag s ∧ (c.resume s stage a).isAt holds = false

namespace Exchange

variable {c : Controller State Call Stage Result} {x : Exchange State Call Stage Result}
  {awaits : Nat → Stage → List Question} {suits : Call → Stage → Prop}
  {flag : State → Bool} {holds : Stage → Bool}

private theorem countP_waitsAs (n : Nat) (t : Turn State Stage Result) :
    (t.waitsAs n).countP (fun w => holds w.2) = (t.isAt holds).toNat := by
  cases ht : t.next with
  | ends r => simp [Turn.waitsAs, Turn.isAt, ht]
  | waits asks stage => cases hs : holds stage <;> simp [Turn.waitsAs, Turn.isAt, ht, hs]

/-- Taking out the number of a waiting call takes out just its own entry. -/
theorem Orderly.exists_split (h : Orderly awaits suits x) {n : Nat} {stage : Stage}
    (hw : (n, stage) ∈ x.run.waiting) :
    ∃ before after, x.run.waiting = before ++ (n, stage) :: after ∧
      (x.run.waiting.filter fun w => w.1 != n) = before ++ after := by
  obtain ⟨before, after, heq⟩ := List.append_of_mem hw
  refine ⟨before, after, heq, ?_⟩
  have hnd := h.nodup
  rw [heq, List.map_append, List.map_cons, List.nodup_append, List.nodup_cons] at hnd
  obtain ⟨-, ⟨hafter, -⟩, hbefore⟩ := hnd
  have hb : ∀ w ∈ before, (w.1 != n) = true := fun w hw' => by
    simpa using hbefore w.1 (List.mem_map_of_mem hw') n (List.mem_cons_self ..)
  have ha : ∀ w ∈ after, (w.1 != n) = true := fun w hw' => by
    simpa using fun he : w.1 = n => hafter (List.mem_map.mpr ⟨w, hw', he⟩)
  rw [heq, List.filter_append, List.filter_cons_of_neg (by simp), List.filter_eq_self.mpr hb,
    List.filter_eq_self.mpr ha]

/-- Taking a waiting call out takes just its own stage out of a count. -/
theorem Orderly.countP_filter (h : Orderly awaits suits x) (holds : Stage → Bool) {n : Nat}
    {stage : Stage} (hw : (n, stage) ∈ x.run.waiting) :
    x.run.waiting.countP (fun w => holds w.2) =
      (x.run.waiting.filter fun w => w.1 != n).countP (fun w => holds w.2)
        + (holds stage).toNat := by
  obtain ⟨before, after, heq, hkeep⟩ := h.exists_split hw
  rw [hkeep, heq, List.countP_append, List.countP_append, List.countP_cons]
  cases holds stage with
  | false => simp
  | true => simp only [ite_true, Bool.toNat_true]; omega

/-- One event keeps the flag up just while one call is at a guarded stage. -/
theorem Orderly.countP_step (hg : c.Guards flag holds) (h : Orderly awaits suits x)
    (hx : x.run.waiting.countP (fun w => holds w.2) = (flag x.run.state).toNat) (e : Event Call) :
    (x.step c e).run.waiting.countP (fun w => holds w.2) =
      (flag (x.step c e).run.state).toNat := by
  cases e with
  | call call =>
    rw [Exchange.step_call]
    simp only [begins, h.filter_begun, List.countP_append, countP_waitsAs, hx, hg.begin_flag]
    cases ht : (c.begin x.run.state call).isAt holds with
    | false => simp
    | true => simp [hg.begin_free ht]
  | answer n a =>
    rcases h.answer_cases c n a with hsame | ⟨q, stage, -, -, hw, -, hstep⟩
    · rwa [hsame]
    · have hcount := h.countP_filter holds hw
      rw [hstep]
      simp only [continues, List.countP_append, countP_waitsAs]
      cases hs : holds stage with
      | false =>
        obtain ⟨hflag, hat⟩ := hg.resume_free (s := x.run.state) a hs
        simp only [hs, Bool.toNat_false] at hcount
        rw [hflag, hat, ← hx, hcount]
        rfl
      | true =>
        -- A guarded stage is counted, so the flag is up and no other call is at one.
        simp only [hs, Bool.toNat_true] at hcount
        have hup : flag x.run.state = true := by
          cases hf : flag x.run.state with
          | true => rfl
          | false =>
            rw [hf, Bool.toNat_false] at hx
            omega
        rw [hg.resume_held a hs hup]
        simp only [hup, Bool.toNat_true] at hx
        omega

/-- However calls and answers are interleaved, the flag is up just while one call is at a guarded
stage, and never more than one call is. -/
theorem countP_guarded (hc : c.Keeps awaits suits) (hg : c.Guards flag holds) {s : State}
    (hs : flag s = false) (events : List (Event Call)) :
    ((start s).play c events).run.waiting.countP (fun w => holds w.2) =
      (flag ((start s).play c events).run.state).toNat := by
  refine (play_induction (P := fun y => Orderly awaits suits y ∧
    y.run.waiting.countP (fun w => holds w.2) = (flag y.run.state).toNat) events
      ⟨orderly_start s, ?_⟩ fun y e _ hy => ⟨hy.1.step hc e, hy.1.countP_step hg hy.2 e⟩).2
  simp [start, hs]

variable {kind : Call → Bool} {n : Nat}

/-- A call of a kind is under way just when it waits. -/
theorem mem_underWay :
    n ∈ x.underWay kind ↔
      n ∈ x.run.waiting.map Prod.fst ∧ ∃ call, x.calls[n]? = some call ∧ kind call = true := by
  simp only [underWay, List.mem_filter, Option.any_eq_true]

/-- The calls of a kind that are under way are those at the stages that the kind gets to. -/
theorem Orderly.length_underWay (h : Orderly awaits suits x)
    (hkind : ∀ {call stage}, suits call stage → kind call = holds stage) :
    (x.underWay kind).length = x.run.waiting.countP (fun w => holds w.2) := by
  unfold underWay
  rw [← List.countP_eq_length_filter, List.countP_map]
  refine List.countP_congr fun w hw => ?_
  obtain ⟨call, hcall, hsuits⟩ := h.suits w hw
  simp [hcall, hkind hsuits]

/-- However calls and answers are interleaved, the flag is up just while one call of the guarded
kind is under way, and never more than one is. -/
theorem length_underWay_guarded (kind : Call → Bool) (hc : c.Keeps awaits suits)
    (hg : c.Guards flag holds)
    (hkind : ∀ {call stage}, suits call stage → kind call = holds stage) {s : State}
    (hs : flag s = false) (events : List (Event Call)) :
    (((start s).play c events).underWay kind).length =
      (flag ((start s).play c events).run.state).toNat := by
  rw [(orderly_play hc s events).length_underWay hkind, countP_guarded hc hg hs]

/-- A new call leaves those of a kind that are under way, and joins them if it waits and is of that
kind. -/
theorem Orderly.underWay_begins (h : Orderly awaits suits x) (call : Call)
    (t : Turn State Stage Result) :
    (x.begins call t).underWay kind =
      x.underWay kind ++ ((t.waitsAs x.run.begun).map Prod.fst).filter fun _ => kind call := by
  have hold : ∀ m ∈ x.run.waiting.map Prod.fst, (x.calls ++ [call])[m]? = x.calls[m]? := by
    intro m hm
    obtain ⟨w, hw, rfl⟩ := List.mem_map.mp hm
    exact List.getElem?_append_left (h.begun ▸ h.waiting_lt w hw)
  have hnew : ∀ m ∈ (t.waitsAs x.run.begun).map Prod.fst, (x.calls ++ [call])[m]? = some call := by
    intro m hm
    have hbegun : m = x.calls.length := by
      rw [h.begun]
      cases ht : t.next with
      | ends r => simp [Turn.waitsAs, ht] at hm
      | waits asks stage => simpa [Turn.waitsAs, ht] using hm
    rw [hbegun]
    exact List.getElem?_concat_length
  unfold underWay
  simp only [begins, h.filter_begun, List.map_append, List.filter_append]
  congr 1
  · exact List.filter_congr fun m hm => by rw [hold m hm]
  · exact List.filter_congr fun m hm => by rw [hnew m hm, Option.any_some]

/-- A new call ends no other call. -/
theorem Orderly.mem_underWay_call (h : Orderly awaits suits x) (call : Call)
    (hn : n ∈ x.underWay kind) : n ∈ (x.step c (.call call)).underWay kind := by
  rw [Exchange.step_call, h.underWay_begins]
  exact List.mem_append_left _ hn

/-- An answer begins no call. -/
theorem Orderly.mem_underWay_answer (h : Orderly awaits suits x) {m : Nat} {a : Answer}
    (hn : n ∈ (x.step c (.answer m a)).underWay kind) : n ∈ x.underWay kind := by
  rcases h.answer_cases c m a with hsame | ⟨q, stage, -, -, hw, -, hstep⟩
  · rwa [hsame] at hn
  · rw [hstep] at hn
    obtain ⟨hwaits, call, hcall, hkind⟩ := mem_underWay.mp hn
    refine mem_underWay.mpr ⟨?_, call, hcall, hkind⟩
    rcases mem_numbers_after.mp hwaits with ⟨-, hin⟩ | ⟨rfl, -⟩
    · exact hin
    · exact List.mem_map_of_mem hw

/-- When the only call of a kind that is under way ends, none is left under way. -/
theorem Orderly.underWay_eq_nil (h : Orderly awaits suits x) (hone : (x.underWay kind).length ≤ 1)
    {e : Event Call} (hn : n ∈ x.underWay kind) (hends : n ∉ (x.step c e).underWay kind) :
    (x.step c e).underWay kind = [] := by
  cases e with
  | call call => exact absurd (h.mem_underWay_call call hn) hends
  | answer m a =>
    refine List.eq_nil_iff_forall_not_mem.mpr fun k hk => hends ?_
    have hkn : k = n := eq_of_mem_of_length_le_one hone (h.mem_underWay_answer hk) hn
    exact hkn ▸ hk

end Exchange

end VoucherDesk.Dialogue
