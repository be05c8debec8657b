import VoucherDesk.Form.Basic
import VoucherDesk.Proofs.Value.Moves
import VoucherDesk.Proofs.Voucher.Draft

/-!
# Revisions of a voucher

A saved voucher that is loaded, edited and sent back is revised. The revision has for each
field what its last edit is read as, or else what the voucher held; a voucher that is not a
gift has no use limit, and the count and the key play no part. It is what the draft describes
that shows the voucher under the edits, just when it obeys the range rules.
-/

namespace VoucherDesk

/-- The values that a saved voucher is changed to. -/
structure Revision where
  name : String
  quota : Int
  isGift : Bool
  maxUses : Int
  validFrom : Int
  validUntil : Int
  deriving DecidableEq, Repr

namespace Revision

/-- The values of a voucher as it is. -/
def ofVoucher (v : Voucher) : Revision :=
  ⟨v.name, v.quota, v.isGift, v.maxUses, v.validFrom, v.validUntil⟩

/-- What is sent to change the voucher with a number to these values. -/
def body (r : Revision) (id : Int) : Fields :=
  [("name", .text r.name), ("quota", .int r.quota), ("is_gift", .bool r.isGift),
    ("max_uses", .int r.maxUses), ("valid_from", .int r.validFrom),
    ("valid_until", .int r.validUntil), ("id", .int id)]

/-- The range rules and the rule of the window. -/
structure Obeys (r : Revision) : Prop where
  quota : 0 < r.quota
  maxUses : r.maxUses = unlimitedUses ∨ 1 ≤ r.maxUses
  validFrom : 0 ≤ r.validFrom
  validUntil : 0 ≤ r.validUntil
  /-- A window with two ends is not empty. -/
  window : r.validFrom ≠ 0 → r.validUntil ≠ 0 → r.validFrom < r.validUntil

end Revision

/-- What becomes of a field: its edit is read, and without one it is as it was. -/
def revised {α : Type} (read : Value → Except Failure α) (loaded : α) :
    Option Value → Except Failure α
  | some edit => read edit
  | none => .ok loaded

/-- The use limit that an entry is read as: blank means unlimited. -/
def readUses (v : Value) : Except Failure Int :=
  if FormField.isBlank v then .ok unlimitedUses else FormField.int "max_uses" v

/-- A voucher under edits has certain values: those that the last edit of each field is read as, or
else those that it had. -/
structure Revises (v : Voucher) (edits : List (String × Value)) (r : Revision) : Prop where
  name : revised Draft.name v.name (Fields.lastEdit edits "name") = .ok r.name
  quota : revised (FormField.int "quota") v.quota (Fields.lastEdit edits "quota") = .ok r.quota
  isGift : r.isGift = ((Fields.lastEdit edits "is_gift").map Value.isTruthy).getD v.isGift
  /-- Only gifts have a use limit, and it is read for them only. -/
  maxUses : if r.isGift then
      revised readUses v.maxUses (Fields.lastEdit edits "max_uses") = .ok r.maxUses
    else r.maxUses = unlimitedUses
  validFrom : revised (FormField.timestamp "valid_from") v.validFrom
    (Fields.lastEdit edits "valid_from") = .ok r.validFrom
  validUntil : revised (FormField.timestamp "valid_until") v.validUntil
    (Fields.lastEdit edits "valid_until") = .ok r.validUntil

/-- Whether edits have no moment before the epoch, as none has that comes from JSON. -/
def HasNoEarlyMoment (edits : List (String × Value)) : Prop :=
  ∀ e ∈ edits, ∀ t, e.2 = .moment t → 0 ≤ t.epochMicros

namespace Draft

/-- The use limit of an entry is the one that it is read as, if that obeys its rule. -/
theorem useLimit_eq_ok {v : Value} {n : Int} :
    useLimit v = .ok n ↔ readUses v = .ok n ∧ (n = unlimitedUses ∨ 1 ≤ n) := by
  unfold useLimit readUses
  split
  · exact ⟨fun h => ⟨h, Or.inl (Except.ok.inj h).symm⟩, And.left⟩
  · rw [FormField.intWhere_eq_ok, decide_eq_true_iff]

/-- The draft that shows a voucher under edits. -/
def showing (v : Voucher) (edits : List (String × Value)) : Fields :=
  Fields.override (Form.inputsOf v) edits

variable {v : Voucher} {edits : List (String × Value)} {field : String} {α : Type}

/-- A field of a draft that shows a voucher is read as what becomes of it, if it is read as it was
without an edit. -/
theorem read_showing {read : Value → Except Failure α} {loaded : α}
    (h : read (Value.fieldOf (Form.inputsOf v) field) = .ok loaded) :
    read (Value.fieldOf (showing v edits) field) =
      revised read loaded (Fields.lastEdit edits field) := by
  rw [showing, Fields.fieldOf_override]
  cases Fields.lastEdit edits field with
  | none => exact h
  | some edit => rfl

/-- An end of the window is read as what becomes of it, if that is not negative. -/
theorem timestamp_showing {loaded n : Int} (hedits : HasNoEarlyMoment edits)
    (h : Value.fieldOf (Form.inputsOf v) field = .int loaded) :
    FormField.timestamp field (Value.fieldOf (showing v edits) field) = .ok n ↔
      revised (FormField.timestamp field) loaded (Fields.lastEdit edits field) = .ok n ∧
        0 ≤ n := by
  rw [showing, Fields.fieldOf_override]
  cases hlast : Fields.lastEdit edits field with
  | none =>
    rw [Option.getD_none, h]
    simp [FormField.timestamp, FormField.isBlank, revised, FormField.intWhere_eq_ok, FormField.int]
  | some edit =>
    refine ⟨fun hread => ⟨hread, ?_⟩, And.left⟩
    exact (FormField.timestamp_nonneg_iff hread).mpr (hedits _ (Fields.mem_of_lastEdit hlast))

/-- The name is read as what becomes of it. -/
theorem name_showing : Draft.name (Value.fieldOf (showing v edits) "name") =
    revised Draft.name v.name (Fields.lastEdit edits "name") := by
  refine read_showing ?_
  show Draft.name (.text v.name) = .ok v.name
  by_cases hempty : v.name = ""
  · rw [hempty]
    rfl
  · simp [Draft.name, Value.isWritten, Value.orElse, Value.isTruthy, hempty, Value.plain]

/-- The quota is read as what becomes of it. -/
theorem quota_showing : FormField.int "quota" (Value.fieldOf (showing v edits) "quota") =
    revised (FormField.int "quota") v.quota (Fields.lastEdit edits "quota") :=
  read_showing rfl

/-- A draft is for a gift when that is what becomes of it. -/
theorem isGift_showing : (Value.fieldOf (showing v edits) "is_gift").isTruthy =
    ((Fields.lastEdit edits "is_gift").map Value.isTruthy).getD v.isGift := by
  rw [showing, Fields.fieldOf_override]
  cases Fields.lastEdit edits "is_gift" <;> rfl

/-- The use limit is read as what becomes of it. -/
theorem uses_showing : readUses (Value.fieldOf (showing v edits) "max_uses") =
    revised readUses v.maxUses (Fields.lastEdit edits "max_uses") :=
  read_showing rfl

end Draft

namespace Revision

/-- The voucher with a number that has these values. -/
def toVoucher (r : Revision) (id : Int) : Voucher :=
  { id := some id, name := r.name, quota := r.quota,
    kind := if r.isGift then .gift r.maxUses else .standard,
    validFrom := r.validFrom, validUntil := r.validUntil }

end Revision

namespace Draft

variable {key : Value} {id : Int}

/-- What is described by a draft that shows a voucher under edits is a gift when that is what
becomes of it, and has the use limit that becomes of a gift. -/
theorem Describes.kind_showing {d : Voucher}
    (h : Describes (showing v edits) key (.int id) d) :
    d.isGift = ((Fields.lastEdit edits "is_gift").map Value.isTruthy).getD v.isGift ∧
      (if d.isGift then
        revised readUses v.maxUses (Fields.lastEdit edits "max_uses") = .ok d.maxUses
      else d.maxUses = unlimitedUses) ∧
      (d.maxUses = unlimitedUses ∨ 1 ≤ d.maxUses) ∧
      d.kind = if d.isGift then .gift d.maxUses else .standard := by
  have hread := h.kind
  rw [isGift_showing] at hread
  split at hread
  · next hgift =>
    obtain ⟨n, hn, hkind⟩ := hread
    obtain ⟨huses, hrange⟩ := useLimit_eq_ok.mp hn
    rw [uses_showing] at huses
    have hdgift : d.isGift = true := by simp only [Voucher.isGift, hkind]
    have hduses : d.maxUses = n := by simp only [Voucher.maxUses, hkind]
    rw [hdgift, hduses, if_pos rfl, if_pos rfl]
    exact ⟨hgift.symm, huses, hrange, hkind⟩
  · next hgift =>
    have hdgift : d.isGift = false := by simp only [Voucher.isGift, hread]
    have hduses : d.maxUses = unlimitedUses := by simp only [Voucher.maxUses, hread]
    rw [hdgift, if_neg Bool.false_ne_true, if_neg Bool.false_ne_true]
    exact ⟨(Bool.eq_false_iff.mpr hgift).symm, hduses, Or.inl hduses, hread⟩

/-- What is described by a draft that shows a voucher under edits is a revision that obeys the range
rules. -/
theorem Describes.revises (hedits : HasNoEarlyMoment edits) {d : Voucher}
    (h : Describes (showing v edits) key (.int id) d) (hwindow : d.validate = .ok ()) :
    Revises v edits (.ofVoucher d) ∧ (Revision.ofVoucher d).Obeys ∧
      d = (Revision.ofVoucher d).toVoucher id := by
  obtain ⟨hfrom, hfrom0⟩ := (timestamp_showing hedits rfl).mp h.validFrom
  obtain ⟨huntil, huntil0⟩ := (timestamp_showing hedits rfl).mp h.validUntil
  obtain ⟨hgift, huses, hrange, hkind⟩ := h.kind_showing
  refine ⟨⟨?_, ?_, hgift, huses, hfrom, huntil⟩,
    ⟨h.quota_pos, hrange, hfrom0, huntil0, fun hf hu => ?_⟩, ?_⟩
  · rw [← name_showing]
    exact h.name
  · rw [← quota_showing]
    exact h.quota
  · have hfirst : d.validFrom ≠ 0 := hf
    have hlast : d.validUntil ≠ 0 := hu
    exact Voucher.validate_eq_ok.mp hwindow (by omega) (by omega)
  · -- The number is the one that is edited, and neither a count nor a key is read.
    have hid : d.id = some id := by
      simpa [Reading.intOrNull, Reading.int, Except.map, eq_comm] using h.id
    have hcount : d.count = 1 := by simpa [Value.isNull] using h.count
    have hkey : d.key = none := by simpa [Value.isNull, Reading.textOrNull, eq_comm] using h.key
    obtain ⟨id', name, quota, count, key', kind, validFrom, validUntil⟩ := d
    cases hid
    cases hcount
    cases hkey
    exact congrArg (Voucher.mk (some id) name quota 1 none · validFrom validUntil) hkind

/-- A revision that obeys the range rules is described by the draft that shows the voucher under the
edits. -/
theorem describes_of_revises (hedits : HasNoEarlyMoment edits) {r : Revision}
    (h : Revises v edits r) (hobeys : r.Obeys) :
    Describes (showing v edits) key (.int id) (r.toVoucher id) ∧
      (r.toVoucher id).validate = .ok () := by
  refine ⟨⟨?_, hobeys.quota, ?_, ?_, ?_, ?_, ?_, ?_, ?_⟩, ?_⟩
  · rw [quota_showing]
    exact h.quota
  · simp [Value.isNull, Revision.toVoucher]
  · rw [isGift_showing, ← h.isGift]
    have huses := h.maxUses
    cases hgift : r.isGift with
    | true =>
      rw [hgift, if_pos rfl] at huses
      rw [if_pos rfl]
      refine ⟨r.maxUses, useLimit_eq_ok.mpr ⟨?_, hobeys.maxUses⟩,
        by simp [Revision.toVoucher, hgift]⟩
      rw [uses_showing]
      exact huses
    | false => simp [Revision.toVoucher, hgift]
  · exact (timestamp_showing hedits rfl).mpr ⟨h.validFrom, hobeys.validFrom⟩
  · exact (timestamp_showing hedits rfl).mpr ⟨h.validUntil, hobeys.validUntil⟩
  · rw [name_showing]
    exact h.name
  · rfl
  · rfl
  · refine Voucher.validate_eq_ok.mpr fun hf hu => ?_
    have hfirst : 0 < r.validFrom := hf
    have hlast : 0 < r.validUntil := hu
    exact hobeys.window (by omega) (by omega)

end Draft

/-- What is sent of a revision are its values. -/
theorem Revises.updatePayload {v : Voucher} {edits : List (String × Value)} {r : Revision}
    (h : Revises v edits r) (id : Int) :
    (r.toVoucher id).updatePayload = .ok (r.body id) := by
  have huses := h.maxUses
  cases hgift : r.isGift with
  | true =>
    simp [Revision.toVoucher, Voucher.updatePayload, Voucher.commonPayload, Voucher.isGift,
      Voucher.maxUses, Revision.body, hgift]
  | false =>
    rw [hgift, if_neg Bool.false_ne_true] at huses
    simp [Revision.toVoucher, Voucher.updatePayload, Voucher.commonPayload, Voucher.isGift,
      Voucher.maxUses, Revision.body, hgift, huses]

/-- A voucher that is not a gift has no use limit. -/
theorem Voucher.maxUses_of_not_isGift {v : Voucher} (h : v.isGift = false) :
    v.maxUses = unlimitedUses := by
  unfold isGift at h
  unfold maxUses
  split at h
  · cases h
  · rfl

/-- A voucher that is not edited keeps its values. -/
theorem revises_nil {v : Voucher} {r : Revision} : Revises v [] r ↔ r = .ofVoucher v := by
  constructor
  · rintro ⟨hname, hquota, hgift, huses, hfrom, huntil⟩
    obtain ⟨name, quota, isGift, maxUses, validFrom, validUntil⟩ := r
    cases hname
    cases hquota
    cases hfrom
    cases huntil
    obtain rfl : isGift = v.isGift := hgift
    have hsame : maxUses = v.maxUses := by
      cases hgift : v.isGift with
      | true =>
        rw [hgift, if_pos rfl] at huses
        exact (Except.ok.inj huses).symm
      | false =>
        rw [hgift, if_neg Bool.false_ne_true] at huses
        exact huses.trans (Voucher.maxUses_of_not_isGift hgift).symm
    rw [hsame]
    rfl
  · rintro rfl
    refine ⟨rfl, rfl, rfl, ?_, rfl, rfl⟩
    show if v.isGift then _ else _
    cases hgift : v.isGift with
    | true =>
      rw [if_pos rfl]
      rfl
    | false =>
      rw [if_neg Bool.false_ne_true]
      exact Voucher.maxUses_of_not_isGift hgift

/-- Whatever a voucher holds as its count and whatever the count is edited to, its values are the
same. -/
theorem revises_count {v : Voucher} {edits : List (String × Value)} {r : Revision} (count : Int) :
    Revises { v with count } edits r ↔ Revises v (edits.filter fun e => e.1 ≠ "count") r := by
  have hlast (name : String) (hname : name ≠ "count") :=
    Fields.lastEdit_filter hname edits
  constructor
  · rintro ⟨hname, hquota, hgift, huses, hfrom, huntil⟩
    constructor
    all_goals rw [hlast _ (by decide)]
    all_goals assumption
  · rintro ⟨hname, hquota, hgift, huses, hfrom, huntil⟩
    rw [hlast _ (by decide)] at hname hquota hgift huses hfrom huntil
    exact ⟨hname, hquota, hgift, huses, hfrom, huntil⟩

end VoucherDesk
