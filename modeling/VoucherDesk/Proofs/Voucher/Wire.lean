import VoucherDesk.Proofs.Text.Blank
import VoucherDesk.Proofs.Voucher.Draft

/-!
# Vouchers there and back

What is sent of a voucher is read back as that voucher, but for what is not sent: the count and
the key of a saved voucher, the number of new ones, and the blanks around a key. Sending what was
read back sends the same again.
-/

namespace VoucherDesk

/-- A text stands for itself where the empty text is the default. -/
theorem Value.orElse_text (s : String) : (Value.text s).orElse (.text "") = .text s := by
  by_cases h : s = ""
  · rw [h]
    rfl
  · have htruthy : (Value.text s).isTruthy = true := by simpa [isTruthy] using h
    rw [orElse, if_pos htruthy]

/-- A number stands for itself, but for zero, which stands for the default. -/
theorem Value.orElse_int (n default : Int) :
    (Value.int n).orElse (.int default) = .int (if n = 0 then default else n) := by
  by_cases h : n = 0
  · rw [h]
    rfl
  · have htruthy : (Value.int n).isTruthy = true := by simpa [isTruthy] using h
    rw [orElse, if_pos htruthy, if_neg h]

namespace Voucher

/-- What is left of a key: nothing of a blank one, and all but the blanks around it of any other. -/
def trimKey (key : Option String) : Option String :=
  key.bind fun k => if Text.isBlankText k then none else some (Text.trim k)

/-- The key that is sent is what is left of the key. -/
theorem trimmedKey?_eq (v : Voucher) : v.trimmedKey? = trimKey v.key := by
  unfold trimmedKey? trimKey
  cases v.key with
  | none => rfl
  | some k =>
    rw [Option.getD_some, Option.bind_some]
    simp only [Text.isEmpty_trim]

/-- What is left of a key stays as it is. -/
theorem trimKey_trimKey (key : Option String) : trimKey (trimKey key) = trimKey key := by
  cases key with
  | none => rfl
  | some k =>
    cases hblank : Text.isBlankText k with
    | true => simp [trimKey, hblank]
    | false =>
      have hsolid : Text.isBlankText (Text.trim k) = false := by
        rw [← Text.isEmpty_trim, Text.trim_trim, Text.isEmpty_trim, hblank]
      simp [trimKey, hblank, hsolid, Text.trim_trim]

/-- What is sent of every voucher is read as it was, with a number, a count and a key that are read
of the rest. -/
theorem ofWire_commonPayload (v : Voucher) {rest : Fields} {id : Option Int} {count : Int}
    {key : Option String} (hid : Value.fieldOf rest "id" = (id.map Value.int).getD .null)
    (hcount : (Value.fieldOf rest "count").orElse (.int 1) = .int count)
    (hkey : Value.fieldOf rest "key" = (key.map Value.text).getD .null) :
    ofWire (v.commonPayload ++ rest) = .ok { v with id, count, key } := by
  -- The kind is told by the flag and the limit, whatever it is.
  have hread : ofWire (v.commonPayload ++ rest) = readAround
      [("id", Value.fieldOf rest "id"), ("name", (Value.text v.name).orElse (.text "")),
        ("quota", .int v.quota), ("count", (Value.fieldOf rest "count").orElse (.int 1)),
        ("key", Value.fieldOf rest "key"), ("valid_from", (Value.int v.validFrom).orElse (.int 0)),
        ("valid_until", (Value.int v.validUntil).orElse (.int 0))] (.ok v.kind) := by
    obtain ⟨_, _, _, _, _, kind, _, _⟩ := v
    cases kind <;> rfl
  have hzero (n : Int) : (Value.int n).orElse (.int 0) = .int n := by
    rw [Value.orElse_int]
    split
    · next h => rw [h]
    · rfl
  have hid' : Reading.intOrNull ((id.map Value.int).getD .null) = .ok id := by
    cases id <;> rfl
  have hkey' : Reading.textOrNull ((key.map Value.text).getD .null) = .ok key := by
    cases key <;> rfl
  rw [hread, hid, hcount, hkey, Value.orElse_text, hzero, hzero]
  exact readAround_eq_ok.mpr ⟨id, key, hid', hkey', rfl⟩

/-- A saved voucher is read back but for its count and its key, which are not sent. -/
theorem ofWire_updatePayload {v : Voucher} {payload : Fields}
    (h : v.updatePayload = .ok payload) :
    ofWire payload = .ok { v with count := 1, key := none } := by
  unfold updatePayload at h
  cases hid : v.id with
  | none =>
    rw [hid] at h
    cases h
  | some id =>
    rw [hid] at h
    cases h
    exact ofWire_commonPayload v rfl rfl rfl

/-- New vouchers are read back with what is left of their key and without a number, which is not
sent. A count of zero is read as one. -/
theorem ofWire_createPayload (v : Voucher) :
    ofWire v.createPayload = .ok
      { v with id := none, count := if v.count = 0 then 1 else v.count, key := trimKey v.key } := by
  rw [← trimmedKey?_eq, createPayload, List.append_assoc]
  refine ofWire_commonPayload v ?_ (Value.orElse_int v.count 1) ?_
  · cases v.trimmedKey? <;> rfl
  · cases v.trimmedKey? <;> rfl

/-- Only what is left of a key is sent of it, and nothing of the number of new vouchers. -/
theorem createPayload_trimKey (v : Voucher) :
    createPayload { v with id := none, key := trimKey v.key } = v.createPayload := by
  unfold createPayload
  rw [trimmedKey?_eq, trimmedKey?_eq, trimKey_trimKey]
  rfl

/-- What is sent of a saved voucher is read back as the voucher with a count of one and no key, and
what is sent of new vouchers, if there are any, is read back without a number and with what is left
of the key; and the same is sent of what was read back. -/
theorem sent_payloads_read_back (v : Voucher) :
    (∀ id, v.id = some id → ∃ payload, v.updatePayload = .ok payload ∧
      ofWire payload = .ok { v with count := 1, key := none } ∧
      updatePayload { v with count := 1, key := none } = .ok payload) ∧
    (v.count ≠ 0 → ofWire v.createPayload = .ok { v with id := none, key := trimKey v.key } ∧
      createPayload { v with id := none, key := trimKey v.key } = v.createPayload) := by
  constructor
  · intro id hid
    have hsent : v.updatePayload = .ok (v.commonPayload ++ [("id", .int id)]) := by
      rw [updatePayload, hid]
    refine ⟨_, hsent, ofWire_updatePayload hsent, ?_⟩
    rw [← hsent]
    rfl
  · intro hcount
    have hread := ofWire_createPayload v
    rw [if_neg hcount] at hread
    exact ⟨hread, createPayload_trimKey v⟩

/-- A gift without limits, of no quota, with a negative bound and blanks around its key, is read
back both as a saved voucher and as new ones. -/
theorem sent_gift_reads_back :
    let v : Voucher := ⟨some 7, "", 0, 3, some " VIP-1\t", .gift unlimitedUses, -5, 0⟩
    (v.id = some 7 ∧ ∃ payload, v.updatePayload = .ok payload ∧
      ofWire payload = .ok ⟨some 7, "", 0, 1, none, .gift unlimitedUses, -5, 0⟩) ∧
    v.count ≠ 0 ∧
      ofWire v.createPayload =
        .ok ⟨none, "", 0, 3, some "VIP-1", .gift unlimitedUses, -5, 0⟩ := by
  intro v
  obtain ⟨hsaved, hnew⟩ := sent_payloads_read_back v
  obtain ⟨payload, hsent, hread, -⟩ := hsaved 7 rfl
  have hcount : v.count ≠ 0 := by decide
  have hkey : trimKey v.key = some "VIP-1" := by decide
  have hback := (hnew hcount).1
  rw [hkey] at hback
  exact ⟨⟨rfl, payload, hsent, hread⟩, hcount, hback⟩

end Voucher

end VoucherDesk
