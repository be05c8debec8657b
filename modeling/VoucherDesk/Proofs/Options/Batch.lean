import VoucherDesk.Options.Batch
import VoucherDesk.Proofs.Changes
import VoucherDesk.Proofs.Dialogue.Order

/-!
# Replies to a batch

The open questions of a batch are those at the places without a reply. A new batch has all of
them open, a reply closes just the question at its place, and a batch is complete when none
is left. What a complete batch comes to is decided by the results in the order of its items,
whatever the order of the replies was.
-/

namespace VoucherDesk.Batch

open Dialogue

/-- Whether the reply at a place is missing. -/
def isOpen (b : Batch) (place : Nat) : Bool :=
  match b.replies[place]? with
  | some none => true
  | _ => false

/-- The open questions of a batch that the call with a number sent. -/
def openQuestions (number : Nat) (b : Batch) : List Question :=
  (questions number b.asks).filter fun q => b.isOpen q.place

/-- A batch keeps its items when it takes a reply. -/
@[simp] theorem put_items (b : Batch) (place : Nat) (r : Reply) :
    (b.put place r).items = b.items := by
  unfold put
  split <;> rfl

@[simp] theorem put_asks (b : Batch) (place : Nat) (r : Reply) :
    (b.put place r).asks = b.asks := by
  simp only [asks, put_items]

/-- A reply closes just its own place. -/
theorem isOpen_put (b : Batch) (place other : Nat) (r : Reply) :
    (b.put place r).isOpen other = (b.isOpen other && other != place) := by
  unfold put
  split
  · next hopen =>
    have hlt : place < b.replies.length := (List.getElem?_eq_some_iff.mp hopen).1
    unfold isOpen
    by_cases hp : place = other
    · subst hp
      simp [hlt]
    · have hne : (other != place) = true := by simpa using Ne.symm hp
      rw [List.getElem?_set_ne hp, hne, Bool.and_true]
  · next hclosed =>
    by_cases hp : other = place
    · subst hp
      have hoff : b.isOpen other = false := by
        unfold isOpen
        split
        · next hopen => exact absurd hopen hclosed
        · rfl
      rw [hoff, Bool.false_and]
    · have hne : (other != place) = true := by simpa using hp
      rw [hne, Bool.and_true]

/-- Every place of a new batch is open. -/
theorem isOpen_ofItems (items : List OptionItem) (place : Nat) :
    (ofItems items).isOpen place = decide (place < items.length) := by
  unfold isOpen ofItems
  by_cases hlt : place < items.length
  · simp [hlt]
  · simp [hlt]

/-- A batch is complete just when no place is open. -/
theorem isComplete_iff {b : Batch} : b.isComplete = true ↔ ∀ place, b.isOpen place = false := by
  unfold isComplete
  rw [List.all_eq_true]
  constructor
  · intro hall place
    unfold isOpen
    split
    · next hopen => exact absurd (hall none (List.mem_of_getElem? hopen)) (by simp)
    · rfl
  · intro hall r hr
    obtain ⟨place, hplace⟩ := List.mem_iff_getElem?.mp hr
    cases r with
    | some r => rfl
    | none =>
      have hopen := hall place
      simp [isOpen, hplace] at hopen

/-- A new batch has all its questions open. -/
theorem openQuestions_ofItems (number : Nat) (items : List OptionItem) :
    (ofItems items).openQuestions number = questions number (ofItems items).asks := by
  refine List.filter_eq_self.mpr fun q hq => ?_
  have hlt := (List.getElem?_eq_some_iff.mp (mem_questions.mp hq).2).1
  rw [isOpen_ofItems]
  simpa [asks, ofItems] using hlt

/-- The question at a place of a batch asks to store the option that stands there. -/
theorem getElem?_of_mem_questions {number : Nat} {b : Batch} {q : Question}
    (hq : q ∈ questions number b.asks) :
    ∃ item, b.items[q.place]? = some item ∧ q.ask = .query (.storeOption item) := by
  have hask := (mem_questions.mp hq).2
  rw [asks, List.getElem?_map] at hask
  obtain ⟨item, hitem, hask⟩ := Option.map_eq_some_iff.mp hask
  exact ⟨item, hitem, hask.symm⟩

/-- The questions of a batch ask to store its options. -/
theorem ask_of_mem_questions {number : Nat} {b : Batch} {q : Question}
    (hq : q ∈ questions number b.asks) :
    ∃ item ∈ b.items, q.ask = .query (.storeOption item) := by
  obtain ⟨item, hitem, hask⟩ := getElem?_of_mem_questions hq
  exact ⟨item, List.mem_of_getElem? hitem, hask⟩

/-- A question of a batch is answered by a reply just when it stands at the place of the reply. -/
theorem isAnsweredBy_reply {number : Nat} {b : Batch} {q : Question}
    (hq : q ∈ questions number b.asks) (place : Nat) (r : Reply) :
    q.isAnsweredBy number (.reply place r) = (q.place == place) := by
  obtain ⟨item, -, hask⟩ := ask_of_mem_questions hq
  have hsame : (place == q.place) = (q.place == place) := Bool.beq_comm
  simp [Question.isAnsweredBy, number_of_mem_questions hq, hask, Answer.fits, hsame]

/-- Only a reply answers a question of a batch. -/
theorem reply_of_isAnsweredBy {number : Nat} {b : Batch} {q : Question} {a : Answer}
    (hq : q ∈ questions number b.asks) (h : q.isAnsweredBy number a = true) :
    ∃ r, a = .reply q.place r := by
  obtain ⟨item, -, hask⟩ := ask_of_mem_questions hq
  cases a with
  | reply place r =>
    have hplace : q.place = place := by simpa [isAnsweredBy_reply hq] using h
    exact ⟨r, hplace ▸ rfl⟩
  | _ => simp [Question.isAnsweredBy, hask, Answer.fits] at h

/-- What is no reply answers no open question of a batch. -/
theorem isAnsweredBy_of_no_reply {b : Batch} {a : Answer} (h : ∀ place r, a ≠ .reply place r)
    (number : Nat) : ∀ q ∈ b.openQuestions number, q.isAnsweredBy number a = false := by
  intro q hq
  refine Bool.eq_false_iff.mpr fun hans => ?_
  obtain ⟨r, hr⟩ := reply_of_isAnsweredBy (List.mem_filter.mp hq).1 hans
  exact h q.place r hr

/-- A reply closes just the question that it answers. -/
theorem openQuestions_put (number : Nat) (b : Batch) (place : Nat) (r : Reply) :
    (b.put place r).openQuestions number =
      (b.openQuestions number).filter fun q => !q.isAnsweredBy number (.reply place r) := by
  unfold openQuestions
  rw [put_asks, List.filter_filter]
  refine List.filter_congr fun q hq => ?_
  rw [isOpen_put, isAnsweredBy_reply hq, Bool.and_comm]
  rfl

/-- A batch keeps its length when it takes a reply. -/
@[simp] theorem length_replies_put (b : Batch) (place : Nat) (r : Reply) :
    (b.put place r).replies.length = b.replies.length := by
  unfold put
  split
  · exact List.length_set
  · rfl

/-- A reply at an open place leaves one reply less to be missed. -/
theorem missing_put {b : Batch} {place : Nat} (h : b.isOpen place = true) (r : Reply) :
    (b.put place r).missing < b.missing := by
  have hopen : b.replies[place]? = some none := by
    unfold isOpen at h
    split at h
    · next hget => exact hget
    · cases h
  obtain ⟨hlt, hnone⟩ := List.getElem?_eq_some_iff.mp hopen
  have hpos : 0 < b.missing :=
    List.countP_pos_iff.mpr ⟨none, List.mem_of_getElem? hopen, rfl⟩
  have hset : (b.put place r).missing = b.missing - 1 := by
    simp only [put, hopen, missing, List.countP_set hlt, hnone, Option.isNone_none,
      Option.isNone_some, Bool.false_eq_true, ite_true, ite_false, Nat.add_zero]
  omega

/-- At an open place of a batch stands a question that a reply answers. -/
theorem exists_open_question (number : Nat) {b : Batch} {place : Nat}
    (hlen : b.replies.length = b.items.length) (h : b.isOpen place = true) (r : Reply) :
    ∃ q ∈ b.openQuestions number, q.isAnsweredBy number (.reply place r) = true := by
  have hlt : place < b.asks.length := by
    rw [asks, List.length_map, ← hlen]
    unfold isOpen at h
    split at h
    · next hget => exact (List.getElem?_eq_some_iff.mp hget).1
    · cases h
  have hq : ⟨number, place, b.asks[place]⟩ ∈ questions number b.asks :=
    mem_questions.mpr ⟨rfl, List.getElem?_eq_getElem hlt⟩
  refine ⟨_, List.mem_filter.mpr ⟨hq, h⟩, ?_⟩
  rw [isAnsweredBy_reply hq]
  exact beq_self_eq_true place

/-- A complete batch has no question open. -/
theorem openQuestions_of_isComplete (number : Nat) {b : Batch} (h : b.isComplete = true) :
    b.openQuestions number = [] := by
  refine List.filter_eq_nil_iff.mpr fun q _ => ?_
  rw [isComplete_iff.mp h q.place]
  exact Bool.false_ne_true

/-- A batch that comes to an end of its own is not saved. -/
theorem verdict_ne_saved {results : List (String × Except Failure Envelope)} {effects : List Effect}
    {r : Except Failure Outcome} (h : verdict results = (effects, some r)) : r ≠ .ok .saved := by
  unfold verdict at h
  dsimp only at h
  split at h
  · cases h
    simp
  · cases h
    simp
  · split at h
    · cases h
    · split at h
      · cases h
        simp
      · cases h
        simp

/-- A reply stands at its place from the moment it is taken. -/
theorem getElem?_put {b : Batch} {place : Nat} (h : b.isOpen place = true) (r : Reply) (i : Nat) :
    (b.put place r).replies[i]? = if i = place then some (some r) else b.replies[i]? := by
  have hopen : b.replies[place]? = some none := by
    unfold isOpen at h
    split at h
    · next hget => exact hget
    · cases h
  have hlt : place < b.replies.length := (List.getElem?_eq_some_iff.mp hopen).1
  simp only [put, hopen]
  by_cases hi : i = place
  · subst hi
    rw [if_pos rfl, List.getElem?_set_self hlt]
  · rw [if_neg hi, List.getElem?_set_ne (Ne.symm hi)]

/-- The batch with replies at several places, taken in an order. -/
def putAll (replies : Nat → Reply) (order : List Nat) (b : Batch) : Batch :=
  order.foldl (fun b place => b.put place (replies place)) b

/-- Replies that are taken at open places stand there, whatever their order was. -/
theorem getElem?_putAll (replies : Nat → Reply) {order : List Nat} (hnodup : order.Nodup)
    {b : Batch} (hopen : ∀ place ∈ order, b.isOpen place = true) (i : Nat) :
    (b.putAll replies order).replies[i]? =
      if i ∈ order then some (some (replies i)) else b.replies[i]? := by
  induction order generalizing b with
  | nil => simp [putAll]
  | cons place rest ih =>
    obtain ⟨hfresh, hrest⟩ := List.nodup_cons.mp hnodup
    have hplace : b.isOpen place = true := hopen place (List.mem_cons_self ..)
    have hnext : ∀ p ∈ rest, (b.put place (replies place)).isOpen p = true := by
      intro p hp
      have hne : (p != place) = true := by simpa using fun heq : p = place => hfresh (heq ▸ hp)
      rw [isOpen_put, hopen p (List.mem_cons_of_mem _ hp), hne, Bool.and_true]
    have hstep := ih hrest hnext
    rw [getElem?_put hplace] at hstep
    rw [show b.putAll replies (place :: rest) =
      (b.put place (replies place)).putAll replies rest from rfl, hstep]
    by_cases hi : i ∈ rest
    · rw [if_pos hi, if_pos (List.mem_cons_of_mem _ hi)]
    · rw [if_neg hi]
      by_cases hip : i = place
      · rw [if_pos hip, if_pos (hip ▸ List.mem_cons_self ..), hip]
      · rw [if_neg hip, if_neg (by simp [hip, hi])]

/-- The items of a batch do not change as replies are taken. -/
@[simp] theorem putAll_items (replies : Nat → Reply) (order : List Nat) (b : Batch) :
    (b.putAll replies order).items = b.items := by
  induction order generalizing b with
  | nil => rfl
  | cons place rest ih => exact (ih (b.put place (replies place))).trans (put_items b place _)

/-- The items of texts that all have a value. -/
theorem itemsOf_text {current : Fields} {keys : List String}
    (h : ∀ key ∈ keys, (current.get? key).isSome = true) :
    itemsOf current (keys.map .text) =
      .ok (keys.map fun key => ⟨key, sentValue (Value.fieldOf current key)⟩) := by
  induction keys with
  | nil => rfl
  | cons key rest ih =>
    obtain ⟨hkey, hrest⟩ := List.forall_mem_cons.mp h
    obtain ⟨v, hv⟩ := Option.isSome_iff_exists.mp hkey
    simp only [List.map_cons, itemsOf, itemOf, hv, ih hrest, Except.map, Value.fieldOf,
      Option.getD_some]

/-- The items of changes are the new values as they are sent. -/
theorem itemsOf_changes {current : Fields} (h : current.names.Nodup) (baseline : Fields) :
    itemsOf current ((Changes.between current baseline).map fun c => .text c.name) =
      .ok ((Changes.between current baseline).map fun c => ⟨c.name, sentValue c.new⟩) := by
  have hfound : ∀ c ∈ Changes.between current baseline, current.get? c.name = some c.new :=
    fun c hc => ((Changes.mem_between h).mp hc).1
  have hkeys : ∀ key ∈ (Changes.between current baseline).map Change.name,
      (current.get? key).isSome = true := by
    intro key hkey
    obtain ⟨c, hc, rfl⟩ := List.mem_map.mp hkey
    rw [hfound c hc, Option.isSome_some]
  have hitems := itemsOf_text hkeys
  rw [List.map_map, List.map_map] at hitems
  refine hitems.trans (congrArg Except.ok (List.map_congr_left fun c hc => ?_))
  simp only [Function.comp_apply, Value.fieldOf, hfound c hc, Option.getD_some]

/-- The results of a batch in the order of its items, given the reply at every place. -/
def resultsAt (items : List OptionItem) (replies : Nat → Reply) : List (Except Failure Envelope) :=
  items.zipIdx.map fun (item, place) => (Query.storeOption item).envelopeOf (replies place)

/-- The results of a batch depend on the replies by place, not on the order in which they came. -/
theorem results_putAll (items : List OptionItem) (replies : Nat → Reply) {order : List Nat}
    (horder : order.Perm (List.range items.length)) :
    ((ofItems items).putAll replies order).results.map Prod.snd = resultsAt items replies := by
  have hnodup : order.Nodup := horder.nodup_iff.mpr List.nodup_range
  have hmem (i : Nat) : i ∈ order ↔ i < items.length := by
    rw [horder.mem_iff, List.mem_range]
  have hreplies : ((ofItems items).putAll replies order).replies =
      (List.range items.length).map fun i => some (replies i) := by
    refine List.ext_getElem? fun i => ?_
    rw [getElem?_putAll replies hnodup fun place hp => by
      rw [isOpen_ofItems]
      simpa using (hmem place).mp hp]
    by_cases hi : i < items.length
    · rw [if_pos ((hmem i).mpr hi)]
      simp [hi]
    · rw [if_neg fun hin => hi ((hmem i).mp hin)]
      simp [ofItems, hi]
  unfold results resultsAt
  rw [hreplies, putAll_items, List.zipIdx_eq_zip_range', ← List.range_eq_range', List.zip_map_right,
    List.filterMap_map, List.map_filterMap, ← List.filterMap_eq_map]
  rfl

section Verdict

variable {named : List (String × Except Failure Envelope)}

/-- The first failure in the order of the items is found. -/
theorem failure?_of_first {before after : List (Except Failure Envelope)} {e : Failure}
    (h : named.map Prod.snd = before ++ .error e :: after)
    (hbefore : ∀ r ∈ before, ∃ envelope, r = .ok envelope) :
    ∃ name, failure? named = some (name, e) := by
  obtain ⟨first, rest, rfl, hfirst, hrest⟩ := List.map_eq_append_iff.mp h
  obtain ⟨⟨name, r⟩, later, rfl, hr, -⟩ := List.map_eq_cons_iff.mp hrest
  obtain rfl : r = .error e := hr
  have hnone : failure? first = none := by
    refine List.findSome?_eq_none_iff.mpr fun ⟨other, r⟩ hmem => ?_
    obtain ⟨envelope, hok⟩ := hbefore r (hfirst ▸ List.mem_map_of_mem hmem)
    rw [hok]
  refine ⟨name, ?_⟩
  unfold failure? at hnone ⊢
  rw [List.findSome?_append, hnone, Option.none_or, List.findSome?_cons_of_isSome rfl]

/-- Among envelopes there is no failure. -/
theorem failure?_of_envelopes (h : ∀ r ∈ named.map Prod.snd, ∃ envelope, r = .ok envelope) :
    failure? named = none := by
  refine List.findSome?_eq_none_iff.mpr fun ⟨name, r⟩ hmem => ?_
  obtain ⟨envelope, hok⟩ := h r (List.mem_map_of_mem hmem)
  rw [hok]

/-- Among accepted options there is no refusal. -/
theorem refusals_of_accepted
    (h : ∀ r ∈ named.map Prod.snd, ∃ envelope, r = .ok envelope ∧ envelope.success = true) :
    refusals named = [] := by
  refine List.filterMap_eq_nil_iff.mpr fun ⟨name, r⟩ hmem => ?_
  obtain ⟨envelope, hok, hsuccess⟩ := h r (List.mem_map_of_mem hmem)
  simp [hok, hsuccess]

/-- A refused option is found among the refusals. -/
theorem mem_refusals {envelope : Envelope} (h : .ok envelope ∈ named.map Prod.snd)
    (hrefused : envelope.success = false) : ∃ name, (name, envelope.message) ∈ refusals named := by
  obtain ⟨⟨name, r⟩, hmem, hr⟩ := List.mem_map.mp h
  obtain rfl : r = .ok envelope := hr
  exact ⟨name, List.mem_filterMap.mpr ⟨_, hmem, by simp [hrefused]⟩⟩

/-- A first failure that is a fault is told in general words, and saving has failed. -/
theorem verdict_of_fault {before after : List (Except Failure Envelope)} {fault : Fault}
    (h : named.map Prod.snd = before ++ .error (.fault fault) :: after)
    (hbefore : ∀ r ∈ before, ∃ envelope, r = .ok envelope) :
    ∃ entry, verdict named =
      ([.log entry, .error "Save failed, please retry"], some (.ok .error)) := by
  obtain ⟨name, hfirst⟩ := failure?_of_first h hbefore
  unfold verdict
  rw [hfirst]
  exact ⟨_, rfl⟩

/-- Any other first failure goes through. -/
theorem verdict_of_failure {before after : List (Except Failure Envelope)} {e : Failure}
    (h : named.map Prod.snd = before ++ .error e :: after)
    (hbefore : ∀ r ∈ before, ∃ envelope, r = .ok envelope) (he : ∀ fault, e ≠ .fault fault) :
    verdict named = ([], some (.error e)) := by
  obtain ⟨name, hfirst⟩ := failure?_of_first h hbefore
  unfold verdict
  rw [hfirst]
  split
  · next heq =>
    cases heq
    exact absurd rfl (he _)
  · next heq =>
    cases heq
    rfl
  · next heq => cases heq

/-- A batch without failures and refusals is saved. -/
theorem verdict_of_accepted
    (h : ∀ r ∈ named.map Prod.snd, ∃ envelope, r = .ok envelope ∧ envelope.success = true) :
    ∃ entry, verdict named = ([.log entry, .success "Saved"], none) := by
  have hnone := failure?_of_envelopes fun r hr => (h r hr).imp fun _ hok => hok.1
  unfold verdict
  rw [hnone, refusals_of_accepted h]
  exact ⟨_, rfl⟩

/-- The refusal of a single option is told in the words of the server. -/
theorem verdict_of_refusal {envelope : Envelope} (h : named.map Prod.snd = [.ok envelope])
    (hrefused : envelope.success = false) :
    ∃ entry, verdict named =
      ([.log entry, .error envelope.message], some (.ok .failed)) := by
  obtain ⟨⟨name, r⟩, rest, rfl, hr, hrest⟩ := List.map_eq_cons_iff.mp h
  obtain rfl : r = .ok envelope := hr
  obtain rfl : rest = [] := List.map_eq_nil_iff.mp hrest
  have hrefusals : refusals [(name, .ok envelope)] = [(name, envelope.message)] := by
    simp [refusals, hrefused]
  unfold verdict
  rw [failure?_of_envelopes (by simp), hrefusals]
  exact ⟨_, rfl⟩

/-- A refusal among several options is told in words of our own. -/
theorem verdict_of_refusals (hall : ∀ r ∈ named.map Prod.snd, ∃ envelope, r = .ok envelope)
    {envelope : Envelope} (h : .ok envelope ∈ named.map Prod.snd)
    (hrefused : envelope.success = false) (hseveral : 1 < (named.map Prod.snd).length) :
    ∃ entries : List LogEntry, verdict named =
      (entries.map .log ++ [.error "Some changes failed to save, please retry"],
        some (.ok .partly)) := by
  obtain ⟨name, hmem⟩ := mem_refusals h hrefused
  have hlength : named.length ≠ 1 := by
    rw [List.length_map] at hseveral
    omega
  unfold verdict
  rw [failure?_of_envelopes hall]
  cases hrefusals : refusals named with
  | nil =>
    rw [hrefusals] at hmem
    exact absurd hmem List.not_mem_nil
  | cons first rest =>
    refine ⟨(first :: rest).map fun p =>
      ⟨.warning, .submission, "Option " ++ p.1 ++ " rejected: " ++ p.2⟩, ?_⟩
    simp only [hlength, ite_false, List.map_map]
    rfl

end Verdict

section Turns

variable {State Stage Result : Type} {b : Batch} {s : State} {collecting settling : Batch → Stage}
  {place : Nat} {r : Reply} {effects : List Effect}
  {finish : Except Failure Outcome → Turn State Stage Result} {saved : Turn State Stage Result}

/-- With its last reply a submission begins to wait for its turn. -/
theorem collect_of_complete (h : (b.put place r).isComplete = true) :
    (b.collect s collecting settling place r : Turn State Stage Result) =
      .waitFor s .pause (settling (b.put place r)) := by
  simp only [collect, h, ite_true]

/-- With any other reply it goes on to wait for those that are missing. -/
theorem collect_of_incomplete (h : (b.put place r).isComplete = false) :
    (b.collect s collecting settling place r : Turn State Stage Result) =
      { state := s, next := .waits [] (collecting (b.put place r)) } := by
  simp only [collect, h, Bool.false_eq_true, ite_false]

/-- A batch that is not saved ends its submission. -/
theorem settle_of_some {r : Except Failure Outcome} (h : verdict b.results = (effects, some r)) :
    b.settle finish saved = (finish r).after effects := by
  simp only [settle, h]

/-- With a saved batch it goes on. -/
theorem settle_of_none (h : verdict b.results = (effects, none)) :
    b.settle finish saved = saved.after effects := by
  simp only [settle, h]

end Turns

/-- A refresh that ends with no fault but another failure ends the submission with it. -/
theorem afterRefresh_of_failure {e : Failure} (he : ∀ fault, e ≠ .fault fault) :
    afterRefresh (.error e) = ([], .error e) := by
  unfold afterRefresh
  split
  · next heq => cases heq
  · next heq =>
    cases heq
    exact absurd rfl (he _)
  · next heq =>
    cases heq
    rfl

end VoucherDesk.Batch
