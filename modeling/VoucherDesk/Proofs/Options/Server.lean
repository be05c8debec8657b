import VoucherDesk.Proofs.Options.Batch
import VoucherDesk.Proofs.Json.Encoding
import VoucherDesk.Proofs.Value.Fields

/-!
# A server that holds options

The server lists the options that it holds, and stores every option that it is sent in place of
the one with the same key. While it takes the options of a batch, in whatever order, it holds
just those that it has replied to besides what it held before.
-/

namespace VoucherDesk

open Dialogue

/-- Whether a reply is a list of just the options that are held. -/
def Lists (held : Fields) (r : Reply) : Prop :=
  ∃ (message : String) (items : List OptionItem), Query.listOptions.envelopeOf r =
      .ok ⟨true, message, .list (items.map fun item => .record item.toFields)⟩ ∧
    ∀ key, (Fields.ofPairs (items.map fun item => (item.key, item.value))).get? key =
      held.get? key

/-- What a server that holds options does with a query: it lists the options truthfully, and stores
an option and says so. -/
inductive ServesOptions : Fields → Query → Reply → Fields → Prop where
  | lists {held : Fields} {r : Reply} (truthful : Lists held r) :
      ServesOptions held .listOptions r held
  | stores {held : Fields} {item : OptionItem} {r : Reply} {envelope : Envelope}
      (answers : (Query.storeOption item).envelopeOf r = .ok envelope)
      (accepts : envelope.success = true) :
      ServesOptions held (.storeOption item) r (held.put item.key item.value)

/-- An option is read as it is listed. -/
theorem OptionItem.read_toFields (item : OptionItem) :
    read (.record item.toFields) = .ok item := rfl

/-- Options are read one by one as they are listed. -/
theorem Query.readItems_toFields (items : List OptionItem) :
    readItems (items.map fun item => .record item.toFields) = .ok items := by
  induction items with
  | nil => rfl
  | cons item rest ih => simp only [List.map_cons, readItems, OptionItem.read_toFields, ih]; rfl

/-- A query stores one option only. -/
theorem Query.storeOption_inj {item other : OptionItem}
    (h : Query.storeOption item = .storeOption other) : item = other := by
  obtain ⟨key, value⟩ := item
  obtain ⟨key', value'⟩ := other
  cases h
  rfl

/-- What is read of a list of the options that are held is what is held. -/
theorem Lists.optionsOf {held : Fields} {r : Reply} (h : Lists held r) :
    ∃ options, Query.optionsOf r = .ok options ∧ ∀ key, options.get? key = held.get? key := by
  obtain ⟨message, items, henvelope, hheld⟩ := h
  refine ⟨_, ?_, hheld⟩
  have hitems : Query.itemsOf (.list (items.map fun item => .record (OptionItem.toFields item))) =
      .ok (items.map fun item => .record item.toFields) := by
    cases items with
    | nil => rfl
    | cons item rest => rfl
  simp only [Query.optionsOf, henvelope, hitems, Query.readItems_toFields, Bool.not_true,
    Bool.false_eq_true, ite_false]
  rfl

namespace ServesOptions

variable {held after : Fields} {q : Query} {r : Reply}

/-- A request for the option list changes nothing that is held. -/
theorem of_list (h : ServesOptions held q r after) (hq : q = .listOptions) :
    Lists held r ∧ after = held := by
  cases h with
  | lists truthful => exact ⟨truthful, rfl⟩
  | stores answers accepts => cases hq

/-- An option that is sent is stored. -/
theorem of_store {item : OptionItem} (h : ServesOptions held q r after)
    (hq : q = .storeOption item) : after = held.put item.key item.value := by
  cases h with
  | lists truthful => cases hq
  | stores answers accepts => rw [Query.storeOption_inj hq]

/-- The reply to an option that is sent says that it was stored. -/
theorem accepts_of_store {item : OptionItem} (h : ServesOptions held q r after)
    (hq : q = .storeOption item) :
    ∃ envelope, (Query.storeOption item).envelopeOf r = .ok envelope ∧
      envelope.success = true := by
  cases h with
  | lists truthful => cases hq
  | stores answers accepts =>
    rw [← Query.storeOption_inj hq]
    exact ⟨_, answers, accepts⟩

end ServesOptions

/-- What a server says that has stored an option. -/
def storedText : List UInt8 := "\x7b\"success\": true\x7d".toUTF8.toList

/-- It accepts whatever it was sent. -/
theorem envelopeOf_storedText (q : Query) :
    q.envelopeOf (.answered 200 storedText) = .ok ⟨true, "", .null⟩ := by
  refine q.envelopeOf_toUTF8 (v := .record [("success", .bool true)]) (by decide) ?_ rfl
  simp only [Json.ofText?, String.reduceToList]
  rfl

/-- The options after items have been stored: every item is there, and nothing else has changed. -/
structure Stores (items : List OptionItem) (held after : Fields) : Prop where
  stored : ∀ item ∈ items, after.get? item.key = some item.value
  kept : ∀ key, key ∉ items.map OptionItem.key → after.get? key = held.get? key

/-- Without items nothing changes. -/
theorem Stores.nil (held : Fields) : Stores [] held held :=
  ⟨List.forall_mem_nil _, fun _ _ => rfl⟩

namespace Batch

/-- The options while a batch is taken: the items with a reply are stored, and nothing else has
changed. -/
structure Takes (b : Batch) (held after : Fields) : Prop where
  length : b.replies.length = b.items.length
  nodup : (b.items.map OptionItem.key).Nodup
  stored : ∀ i item, b.items[i]? = some item → b.isOpen i = false →
    after.get? item.key = some item.value
  kept : ∀ key, (∀ i item, b.items[i]? = some item → b.isOpen i = false → item.key ≠ key) →
    after.get? key = held.get? key

/-- Whether every reply that a batch has taken says that its option was stored. -/
def Grants (b : Batch) : Prop :=
  ∀ (i : Nat) (item : OptionItem) (r : Reply), b.items[i]? = some item →
    b.replies[i]? = some (some r) → ∃ envelope,
      (Query.storeOption item).envelopeOf r = .ok envelope ∧ envelope.success = true

/-- A new batch has taken no reply. -/
theorem grants_ofItems (items : List OptionItem) : (ofItems items).Grants := by
  intro i item r _ hreply
  have hget : (items.map fun _ => (none : Option Reply))[i]? = some (some r) := hreply
  rw [List.getElem?_map] at hget
  obtain ⟨_, -, hnone⟩ := Option.map_eq_some_iff.mp hget
  cases hnone

/-- A batch that takes one more such reply has taken such replies only. -/
theorem Grants.put {b : Batch} (h : b.Grants) {place : Nat} {item : OptionItem} {r : Reply}
    {envelope : Envelope} (hopen : b.isOpen place = true) (hitem : b.items[place]? = some item)
    (henvelope : (Query.storeOption item).envelopeOf r = .ok envelope)
    (hsuccess : envelope.success = true) : (b.put place r).Grants := by
  intro i other reply hother hreply
  rw [put_items] at hother
  rw [getElem?_put hopen] at hreply
  by_cases hi : i = place
  · subst hi
    rw [if_pos rfl] at hreply
    cases hreply
    obtain rfl := Option.some.inj (hitem.symm.trans hother)
    exact ⟨envelope, henvelope, hsuccess⟩
  · rw [if_neg hi] at hreply
    exact h i other reply hother hreply

/-- A batch that has taken such replies only is saved. -/
theorem Grants.verdict {b : Batch} (h : b.Grants) :
    ∃ effects, Batch.verdict b.results = (effects, none) := by
  have haccepted : ∀ result ∈ b.results.map Prod.snd, ∃ envelope, result = .ok envelope ∧
      envelope.success = true := by
    intro result hresult
    obtain ⟨⟨name, result⟩, hmem, rfl⟩ := List.mem_map.mp hresult
    obtain ⟨⟨item, reply⟩, hzip, hmap⟩ := List.mem_filterMap.mp hmem
    obtain ⟨r, rfl, hpair⟩ := Option.map_eq_some_iff.mp hmap
    obtain ⟨rfl, rfl⟩ := Prod.ext_iff.mp hpair
    obtain ⟨i, hi⟩ := List.mem_iff_getElem?.mp hzip
    obtain ⟨hitem, hreply⟩ := List.getElem?_zip_eq_some.mp hi
    exact h i item r hitem hreply
  obtain ⟨entry, hverdict⟩ := verdict_of_accepted haccepted
  exact ⟨_, hverdict⟩

/-- Of a new batch nothing is stored yet. -/
theorem takes_ofItems {items : List OptionItem} (h : (items.map OptionItem.key).Nodup)
    (held : Fields) : (ofItems items).Takes held held where
  length := List.length_map ..
  nodup := h
  stored := by
    intro i item hitem hclosed
    rw [isOpen_ofItems] at hclosed
    exact absurd (List.getElem?_eq_some_iff.mp hitem).1 (of_decide_eq_false hclosed)
  kept := fun _ _ => rfl

/-- Items at different places have different keys. -/
theorem Takes.key_ne {b : Batch} {held after : Fields} (h : b.Takes held after) {i j : Nat}
    {item other : OptionItem} (hi : b.items[i]? = some item) (hj : b.items[j]? = some other)
    (hne : i ≠ j) : item.key ≠ other.key := by
  intro heq
  have hkey {k : Nat} {item : OptionItem} (hk : b.items[k]? = some item) :
      (b.items.map OptionItem.key)[k]? = some item.key := by
    rw [List.getElem?_map, hk]
    rfl
  have hlt : i < (b.items.map OptionItem.key).length := by
    rw [List.length_map]
    exact (List.getElem?_eq_some_iff.mp hi).1
  exact hne ((List.getElem?_inj hlt h.nodup).mp ((hkey hi).trans (heq ▸ (hkey hj).symm)))

/-- The item at a place is stored with the reply to it. -/
theorem Takes.put {b : Batch} {held after : Fields} (h : b.Takes held after) {place : Nat}
    {item : OptionItem} (hopen : b.isOpen place = true) (hitem : b.items[place]? = some item)
    (r : Reply) : (b.put place r).Takes held (after.put item.key item.value) where
  length := by rw [length_replies_put, put_items, h.length]
  nodup := by rw [put_items]; exact h.nodup
  stored := by
    intro i other hother hclosed
    rw [put_items] at hother
    rw [Fields.get?_put]
    by_cases hi : i = place
    · subst hi
      obtain rfl := Option.some.inj (hitem.symm.trans hother)
      rw [if_pos rfl]
    · have hne : (i != place) = true := by simpa using hi
      rw [isOpen_put, hne, Bool.and_true] at hclosed
      rw [if_neg (h.key_ne hother hitem hi)]
      exact h.stored i other hother hclosed
  kept := by
    intro key hkey
    rw [Fields.get?_put, if_neg ?_]
    · refine h.kept key fun i other hother hclosed => hkey i other ?_ ?_
      · rw [put_items, hother]
      · rw [isOpen_put, hclosed, Bool.false_and]
    · refine (hkey place item ?_ ?_).symm
      · rw [put_items, hitem]
      · rw [isOpen_put, bne_self_eq_false, Bool.and_false]

/-- Of a complete batch all items are stored. -/
theorem Takes.stores {b : Batch} {held after : Fields} (h : b.Takes held after)
    (hcomplete : b.isComplete = true) : Stores b.items held after where
  stored := by
    intro item hitem
    obtain ⟨i, hi⟩ := List.mem_iff_getElem?.mp hitem
    exact h.stored i item hi (isComplete_iff.mp hcomplete i)
  kept := by
    intro key hkey
    refine h.kept key fun i item hitem _ heq => hkey ?_
    exact heq ▸ List.mem_map_of_mem (List.mem_of_getElem? hitem)

end Batch

end VoucherDesk
