import VoucherDesk.Proofs.Options.Sent

/-!
# Submissions of keys without a value

All values of a batch are looked up before its first query is sent. A key without a value
therefore stops the whole submission, wherever it stands among the keys, and nothing is sent,
told or refreshed. If all keys have values, all queries are sent at once, and no answer to one
of them keeps another from being sent.
-/

namespace VoucherDesk

open Dialogue

namespace Batch

/-- Among keys that do not all have a value there is a first one that has none. -/
theorem exists_first_missing {current : Fields} {keys : List String}
    (h : ∃ key ∈ keys, current.get? key = none) :
    ∃ present key others, keys = present ++ key :: others ∧
      (∀ k ∈ present, (current.get? k).isSome = true) ∧ current.get? key = none := by
  obtain ⟨missing, hmem, hmissing⟩ := h
  have hfound : (keys.find? fun k => (current.get? k).isNone).isSome = true :=
    List.find?_isSome.mpr ⟨missing, hmem, Option.isNone_iff_eq_none.mpr hmissing⟩
  obtain ⟨key, hkey⟩ := Option.isSome_iff_exists.mp hfound
  obtain ⟨hnone, present, others, hsplit, hpresent⟩ := List.find?_eq_some_iff_append.mp hkey
  refine ⟨present, key, others, hsplit, fun k hk => ?_, Option.isNone_iff_eq_none.mp hnone⟩
  simpa using hpresent k hk

/-- The lookup of the values stops at the first key that has none. -/
theorem itemsOf_of_missing {current : Fields} {present others : List String} {key : String}
    (hpresent : ∀ k ∈ present, (current.get? k).isSome = true) (hkey : current.get? key = none) :
    itemsOf current ((present ++ key :: others).map .text) =
      .error (.missingKey (Text.quoted key)) := by
  induction present with
  | nil => simp only [List.nil_append, List.map_cons, itemsOf, itemOf, hkey]
  | cons k rest ih =>
    obtain ⟨hk, hrest⟩ := List.forall_mem_cons.mp hpresent
    obtain ⟨v, hv⟩ := Option.isSome_iff_exists.mp hk
    simp only [List.cons_append, List.map_cons, itemsOf, itemOf, hv, ih hrest, Except.map]

end Batch

namespace Submission

variable {s : Submission} {call : Call}

/-- A submission that misses a value ends at once and leaves the state alone. -/
theorem begin_of_missing {e : Failure} (hfree : s.loading = false)
    (hitems : Batch.itemsOf call.current call.keys = .error e) :
    s.begin call = (Turn.finish s (.error e)).after [] := by
  have hkeys : call.keys.isEmpty = false := by
    cases hempty : call.keys with
    | nil => simp [hempty, Batch.itemsOf] at hitems
    | cons key rest => rfl
  simp only [Submission.begin, Batch.accept, hfree, hkeys, hitems, Bool.false_eq_true, ite_false]

/-- A submission whose keys have values asks for all of its options in its first turn, for none at
all if it has no keys. -/
theorem begin_of_found {items : List OptionItem} (hfree : s.loading = false)
    (hitems : Batch.itemsOf call.current call.keys = .ok items) :
    (s.begin call).effects = [] ∧
      (s.begin call).asks = items.map fun item => .query (.storeOption item) := by
  cases hkeys : call.keys with
  | nil =>
    have hnone : items = [] := by simpa [hkeys, Batch.itemsOf, eq_comm] using hitems
    have hturn : s.begin call = Turn.finish s (.ok .unchanged) := by
      simp only [Submission.begin, Batch.accept, hfree, hkeys, List.isEmpty_nil,
        Bool.false_eq_true, ite_false, ite_true]
      rfl
    rw [hturn, hnone]
    exact ⟨rfl, rfl⟩
  | cons key rest =>
    rw [hkeys] at hitems
    have hturn : s.begin call =
        { state := { s with loading := true },
          next := .waits (Batch.ofItems items).asks (.collecting (Batch.ofItems items)) } := by
      simp only [Submission.begin, Batch.accept, hfree, hkeys, hitems, List.isEmpty_cons,
        Bool.false_eq_true, ite_false]
    rw [hturn]
    exact ⟨rfl, rfl⟩

/-- A later turn of a submission asks for no query. -/
theorem asks_resume (s : Submission) (stage : Stage) (a : Answer) (q : Query) :
    .query q ∉ (s.resume stage a).asks := by
  unfold Turn.asks
  cases resume_resumes s stage a with
  | collects b place r collecting reply turn => simp [turn]
  | completes b place r collecting reply complete turn => simp [turn, Turn.waitFor]
  | refreshes b settling hooked next state => simp [next]
  | ends settled r next state refreshed => simp [next]
  | ignored unfit turn => simp [turn]

/-- A later turn of a submission sends nothing. -/
theorem resume_sends_nothing (s : Submission) (stage : Stage) (a : Answer) :
    ∀ d ∈ (s.resume stage a).deeds, ∀ q, d ≠ .sends q := by
  rintro d hd q rfl
  exact asks_resume s stage a q (Turn.query_mem_asks hd)

/-- An ending is no query. -/
theorem ending_sends_nothing (t : SubmissionTurn) : ∀ d ∈ t.ending, ∀ q, d ≠ .sends q := by
  rintro d hd q rfl
  unfold Turn.ending at hd
  split at hd <;> simp at hd

variable (call) (refreshes : Bool) (before events : List (Event Call))

/-- A submission that misses a value is turned away with the name of the first such key, whatever
comes later. -/
theorem turnedAway_of_missing {e : Failure}
    (hfree : (played refreshes before).run.state.loading = false)
    (hitems : Batch.itemsOf call.current call.keys = .error e) :
    let x := played refreshes before
    let y := x.step controller (.call call)
    y = x.turnedAway call [] (.error e) ∧
      (y.play controller events).deedsOf x.run.begun = [.gives (.error e)] := by
  intro x y
  have hord := Exchange.orderly_play controller_keeps ({ refreshes } : Submission) before
  have hturn : controller.begin x.run.state call = _ := begin_of_missing hfree hitems
  have hstep : y = x.begins call ((Turn.finish x.run.state (.error e)).after []) := by
    rw [← hturn]
    exact Exchange.step_call call
  have haway : y = x.turnedAway call [] (.error e) := hstep.trans (hord.begins_of_finish ..)
  have hended : y.HasEnded x.run.begun := by
    rw [haway]
    exact ⟨Nat.lt_succ_self _, fun hin => by
      obtain ⟨w, hw, heq⟩ := List.mem_map.mp hin
      exact absurd heq (Nat.ne_of_lt (hord.waiting_lt w hw))⟩
  have hlater : (y.play controller events).deedsOf x.run.begun = y.deedsOf x.run.begun :=
    (hord.step controller_keeps (.call call)).deedsOf_play controller_keeps hended events
  refine ⟨haway, ?_⟩
  rw [hlater, hstep, Exchange.deedsOf_begins, if_pos rfl, Exchange.deedsOf_begun controller_keeps]
  rfl

/-- A submission whose keys have values has all of its queries open after its first turn, and sends
no other query whatever is answered. -/
theorem sends_of_found {items : List OptionItem}
    (hfree : (played refreshes before).run.state.loading = false)
    (hitems : Batch.itemsOf call.current call.keys = .ok items) :
    let x := played refreshes before
    let y := x.step controller (.call call)
    y.pending = x.pending ++
        questions x.run.begun (items.map fun item => .query (.storeOption item)) ∧
      ∃ rest, (y.play controller events).deedsOf x.run.begun =
          items.map (fun item => .sends (.storeOption item)) ++ rest ∧
        ∀ d ∈ rest, ∀ q, d ≠ .sends q := by
  intro x y
  have hord := Exchange.orderly_play controller_keeps ({ refreshes } : Submission) before
  obtain ⟨heffects, hasks⟩ := begin_of_found (s := x.run.state) hfree hitems
  have hstep : y = x.begins call (x.run.state.begin call) := Exchange.step_call call
  have hfirst : y.deedsOf x.run.begun =
      items.map (fun item => .sends (.storeOption item)) ++ (x.run.state.begin call).ending := by
    rw [hstep, Exchange.deedsOf_begins, if_pos rfl, Exchange.deedsOf_begun controller_keeps,
      List.nil_append, Turn.deeds, heffects, hasks, List.filterMap_nil, List.nil_append,
      List.filterMap_map]
    exact congrArg (· ++ _) (congrFun List.filterMap_eq_map items)
  have hbegun : x.run.begun < y.run.begun := by
    rw [hstep]
    exact Nat.lt_succ_self _
  obtain ⟨later, hlater, hnothing⟩ := (hord.step controller_keeps (.call call)).exists_later_deeds
    controller_keeps resume_sends_nothing hbegun events
  refine ⟨?_, _, by rw [hlater, hfirst, List.append_assoc], fun d hd => ?_⟩
  · rw [hstep, ← hasks]
    rfl
  · rcases List.mem_append.mp hd with hending | hd
    · exact ending_sends_nothing _ d hending
    · exact hnothing d hd

/-- A submission that finds no other one under way sends all of its batch or nothing. If some key
has no value, it fails with the first such key, without a query, a notice or a refresh, and leaves
everything else as it was, not loading. If all keys have values that can be encoded, no lookup
fails and every query of the batch is sent with the value that its key has, before any answer comes
and so whatever the answers are; no other query is sent later. -/
theorem sends_all_or_nothing (keys : List String) (current : Fields)
    (hfree : (played refreshes before).run.state.loading = false) :
    let call : Call := ⟨keys.map .text, current⟩
    let x := played refreshes before
    let y := x.step controller (.call call)
    ((∃ key ∈ keys, current.get? key = none) →
      ∃ present key others, keys = present ++ key :: others ∧
        (∀ k ∈ present, (current.get? k).isSome = true) ∧ current.get? key = none ∧
        y = x.turnedAway call [] (.error (.missingKey (Text.quoted key))) ∧
        y.run.state.loading = false ∧
        (y.play controller events).deedsOf x.run.begun =
          [.gives (.error (.missingKey (Text.quoted key)))]) ∧
    ((∀ key ∈ keys, ∃ v, current.get? key = some v ∧ v.unsendable? = none) →
      let items : List OptionItem :=
        keys.map fun key => ⟨key, sentValue (Value.fieldOf current key)⟩
      Batch.itemsOf current (keys.map .text) = .ok items ∧
      y.pending = x.pending ++
        questions x.run.begun (items.map fun item => .query (.storeOption item)) ∧
      (∃ rest, (y.play controller events).deedsOf x.run.begun =
          items.map (fun item => .sends (.storeOption item)) ++ rest ∧
        ∀ d ∈ rest, ∀ q, d ≠ .sends q) ∧
      ∀ item ∈ items, ∀ (c : Client) address, Address.join c.base "/api/option/" = .ok address →
        c.request (.storeOption item) =
          .ok ⟨.put, address, .record item.toFields, c.authorization address, c.timeout⟩) := by
  intro call x y
  refine ⟨fun hmissing => ?_, fun hcurrent => ?_⟩
  · obtain ⟨present, key, others, hsplit, hpresent, hkey⟩ := Batch.exists_first_missing hmissing
    have hitems : Batch.itemsOf current (keys.map .text) =
        .error (.missingKey (Text.quoted key)) := by
      rw [hsplit]
      exact Batch.itemsOf_of_missing hpresent hkey
    obtain ⟨haway, hdeeds⟩ := turnedAway_of_missing call refreshes before events hfree
      hitems
    have hloading : y.run.state.loading = false :=
      (congrArg (·.run.state.loading) haway).trans hfree
    exact ⟨present, key, others, hsplit, hpresent, hkey, haway, hloading, hdeeds⟩
  · intro items
    have hitems : Batch.itemsOf current (keys.map .text) = .ok items :=
      Batch.itemsOf_text fun key hkey => by
        obtain ⟨v, hv, -⟩ := hcurrent key hkey
        rw [hv, Option.isSome_some]
    obtain ⟨hpending, hsends⟩ := sends_of_found call refreshes before events hfree hitems
    refine ⟨hitems, hpending, hsends, fun item hitem c address haddress => ?_⟩
    obtain ⟨key, hkey, rfl⟩ := List.mem_map.mp hitem
    obtain ⟨v, hv, hsend⟩ := hcurrent key hkey
    have hfield : Value.fieldOf current key = v := by rw [Value.fieldOf, hv, Option.getD_some]
    rw [hfield]
    exact Client.request_storeOption (unsendable?_storeOption hsend) haddress

/-- The first of two keys without a value stops a batch whose other keys have one, and the next
batch is sent whole though its first query fails. -/
theorem second_batch_sent_after_missing :
    let current : Fields := [("a", .bool true), ("b", .int 1)]
    let missing : Call := ⟨["a", "x", "b", "y"].map .text, current⟩
    let events : List (Event Call) := [.answer 1 (.reply 0 (.broken "reset"))]
    let x := played true [.call missing]
    x.deedsOf 0 = [.gives (.error (.missingKey (Text.quoted "x")))] ∧
      ∃ rest, ((x.step controller (.call ⟨["a", "b"].map .text, current⟩)).play controller
          events).deedsOf 1 =
        [.sends (.storeOption ⟨"a", .text "true"⟩), .sends (.storeOption ⟨"b", .int 1⟩)] ++ rest ∧
          ∀ d ∈ rest, ∀ q, d ≠ .sends q := by
  intro current missing events x
  have hcurrent : ∀ key ∈ ["a", "b"], ∃ v, current.get? key = some v ∧ v.unsendable? = none := by
    intro key hkey
    simp only [List.mem_cons, List.not_mem_nil, or_false] at hkey
    rcases hkey with rfl | rfl
    · exact ⟨.bool true, rfl, rfl⟩
    · exact ⟨.int 1, rfl, rfl⟩
  have hstopped : x.deedsOf 0 = [.gives (.error (.missingKey (Text.quoted "x")))] := by
    obtain ⟨hmissing, -⟩ := sends_all_or_nothing true [] [] ["a", "x", "b", "y"] current rfl
    obtain ⟨present, key, others, hsplit, hpresent, hkey, -, -, hdeeds⟩ :=
      hmissing ⟨"x", by simp, rfl⟩
    obtain rfl : key = "x" := by
      rcases present with _ | ⟨first, _ | ⟨second, rest⟩⟩
      · obtain ⟨rfl, -⟩ := List.cons.inj hsplit
        exact absurd hkey (by decide)
      · exact (List.cons.inj (List.cons.inj hsplit).2).1.symm
      · obtain ⟨rfl, -⟩ := List.cons.inj (List.cons.inj hsplit).2
        exact absurd (hpresent "x" (by simp)) (by decide)
    exact hdeeds
  obtain ⟨-, hsent⟩ := sends_all_or_nothing true [.call missing] events ["a", "b"] current rfl
  obtain ⟨-, -, hsends, -⟩ := hsent hcurrent
  exact ⟨hstopped, hsends⟩

end Submission

end VoucherDesk
