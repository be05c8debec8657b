import VoucherDesk.Client.Query

/-!
# The bytes of plain texts

A plain text has ASCII characters only and no null character, and so it has one byte for each of
them. No such bytes are taken for a byte order mark or for a wider encoding, and they are decoded
to the text that they are of.
-/

namespace VoucherDesk

namespace Json

/-- Whether a character has a single byte that is not zero. -/
def isPlain (c : Char) : Bool := 0 < c.toNat && c.toNat < 128

variable {s : String} {cs : List Char}

/-- What is listed of bytes from a place on comes after what has been listed before. -/
theorem toList_loop (bytes : ByteArray) (i : Nat) (done : List UInt8) :
    ByteArray.toList.loop bytes i done = done.reverse ++ bytes.data.toList.drop i := by
  fun_induction ByteArray.toList.loop bytes i done with
  | case1 i done hlt ih =>
    have hlength : i < bytes.data.toList.length := hlt
    rw [ih, List.drop_eq_getElem_cons hlength, List.reverse_cons, List.append_assoc,
      List.singleton_append]
    simp [ByteArray.get!, getElem!_pos bytes.data i hlt]
  | case2 i done hlt =>
    have hlength : bytes.data.toList.length ≤ i := Nat.le_of_not_lt hlt
    rw [List.drop_eq_nil_of_le hlength, List.append_nil]

/-- The bytes of a text are those of its characters. -/
theorem toList_toUTF8 (s : String) :
    s.toUTF8.toList = s.toList.flatMap String.utf8EncodeChar := by
  rw [String.toUTF8_eq_toByteArray, ← String.utf8Encode_toList, ByteArray.toList, toList_loop]
  simp [List.utf8Encode]

/-- A plain character has just one byte. -/
theorem utf8EncodeChar_of_isPlain {c : Char} (h : isPlain c = true) :
    String.utf8EncodeChar c = [c.val.toUInt8] := by
  simp only [isPlain, Bool.and_eq_true, decide_eq_true_eq] at h
  refine String.utf8EncodeChar_eq_singleton (Char.utf8Size_eq_one_iff.mpr ?_)
  rw [UInt32.le_iff_toNat_le]
  exact Nat.le_of_lt_succ h.2

/-- A plain character is decoded from its byte. -/
theorem toNat_byte_of_isPlain {c : Char} (h : isPlain c = true) :
    c.val.toUInt8.toNat = c.toNat := by
  simp only [isPlain, Bool.and_eq_true, decide_eq_true_eq] at h
  rw [UInt32.toNat_toUInt8]
  exact Nat.mod_eq_of_lt (Nat.lt_trans h.2 (by decide))

/-- The bytes of a plain text, one for each character. -/
theorem bytes_of_isPlain (h : ∀ c ∈ cs, isPlain c = true) :
    cs.flatMap String.utf8EncodeChar = cs.map fun c => c.val.toUInt8 := by
  induction cs with
  | nil => rfl
  | cons c rest ih =>
    obtain ⟨hc, hrest⟩ := List.forall_mem_cons.mp h
    rw [List.flatMap_cons, utf8EncodeChar_of_isPlain hc, ih hrest]
    rfl

/-- No byte of a plain text is zero or begins a longer character. -/
theorem byte_of_mem_map (h : ∀ c ∈ cs, isPlain c = true) :
    ∀ b ∈ cs.map (fun c => c.val.toUInt8), b ≠ 0 ∧ b < 0x80 := by
  intro b hb
  obtain ⟨c, hc, rfl⟩ := List.mem_map.mp hb
  have hvalue := toNat_byte_of_isPlain (h c hc)
  have hplain := h c hc
  simp only [isPlain, Bool.and_eq_true, decide_eq_true_eq] at hplain
  refine ⟨fun hzero => ?_, ?_⟩
  · rw [hzero] at hvalue
    exact absurd hvalue.symm (Nat.ne_of_gt hplain.1)
  · rw [UInt8.lt_iff_toNat_lt, hvalue]
    exact hplain.2

/-- Bytes that are neither zero nor above ASCII do not begin as a byte order mark does. -/
theorem not_isPrefixOf_plain {bytes : List UInt8} (h : ∀ b ∈ bytes, b ≠ 0 ∧ b < 0x80) {m : UInt8}
    (hm : m = 0 ∨ ¬ m < 0x80) (mark : List UInt8) : (m :: mark).isPrefixOf bytes = false := by
  cases bytes with
  | nil => rfl
  | cons b rest =>
    obtain ⟨hzero, hascii⟩ := h b List.mem_cons_self
    have hne : m ≠ b := by
      rintro rfl
      exact hm.elim hzero fun hwide => hwide hascii
    rw [List.isPrefixOf, beq_false_of_ne hne, Bool.false_and]

/-- Such bytes are taken for UTF-8. -/
theorem encodingOf_of_plain {bytes : List UInt8} (h : ∀ b ∈ bytes, b ≠ 0 ∧ b < 0x80) :
    encodingOf bytes = (.utf8, bytes) := by
  have hzero : ∀ b ∈ bytes, b ≠ 0 := fun b hb => (h b hb).1
  simp only [encodingOf, not_isPrefixOf_plain h (Or.inl rfl),
    not_isPrefixOf_plain h (Or.inr (by decide : ¬ (0xFF : UInt8) < 0x80)),
    not_isPrefixOf_plain h (Or.inr (by decide : ¬ (0xFE : UInt8) < 0x80)),
    not_isPrefixOf_plain h (Or.inr (by decide : ¬ (0xEF : UInt8) < 0x80)),
    Bool.false_eq_true, if_false]
  split
  · simp_all
  · simp_all
  · rfl

/-- A byte of ASCII is decoded for itself. -/
theorem utf8Codes_cons {b : UInt8} (h : b < 0x80) (fuel : Nat) (done : List Nat)
    (rest : List UInt8) :
    utf8Codes (fuel + 1) done (b :: rest) = utf8Codes fuel (b.toNat :: done) rest := by
  rw [utf8Codes.eq_def]
  exact if_pos h

/-- The bytes of a plain text are decoded one by one. -/
theorem utf8Codes_of_isPlain (h : ∀ c ∈ cs, isPlain c = true) {fuel : Nat}
    (hfuel : cs.length ≤ fuel) (done : List Nat) :
    utf8Codes fuel done (cs.map fun c => c.val.toUInt8) =
      some (done.reverse ++ cs.map Char.toNat) := by
  induction cs generalizing fuel done with
  | nil =>
    rw [List.map_nil, List.map_nil, List.append_nil]
    cases fuel <;> rfl
  | cons c rest ih =>
    obtain ⟨hc, hrest⟩ := List.forall_mem_cons.mp h
    obtain ⟨fuel, rfl⟩ := Nat.exists_eq_add_of_lt hfuel
    have hascii : c.val.toUInt8 < 0x80 := (byte_of_mem_map h _ List.mem_cons_self).2
    rw [List.map_cons, utf8Codes_cons hascii, ih hrest (Nat.le_add_right ..),
      toNat_byte_of_isPlain hc, List.reverse_cons, List.append_assoc]
    rfl

/-- The code point of a character is that character. -/
theorem charOf_toNat (c : Char) : charOf c.toNat = c := by
  have hvalid : c.toNat.isValidChar := c.valid
  rw [charOf, if_pos hvalid, Char.ofNat_toNat]

/-- The bytes of a plain text are read as the text is. -/
theorem ofBytes?_toUTF8 (h : ∀ c ∈ s.toList, isPlain c = true) :
    ofBytes? s.toUTF8.toList = ofText? s := by
  have hlength : s.toList.length ≤ (s.toList.map fun c => c.val.toUInt8).length :=
    Nat.le_of_eq (List.length_map _).symm
  have hsame : s.toList.map (charOf ∘ Char.toNat) = s.toList :=
    (List.map_congr_left fun c _ => charOf_toNat c).trans (List.map_id _)
  rw [ofBytes?, toList_toUTF8, bytes_of_isPlain h, encodingOf_of_plain (byte_of_mem_map h)]
  simp only [decode, utf8Codes_of_isPlain h hlength, Option.map_some, Option.bind_some,
    List.reverse_nil, List.nil_append, List.map_map, hsame, String.ofList_toList]

end Json

/-- The bytes of a plain text carry the envelope that is read from the text. -/
theorem Query.envelopeIn?_toUTF8 {s : String} {v : Value} {e : Envelope}
    (hplain : s.toList.all Json.isPlain = true) (htext : Json.ofText? s = some v)
    (hread : Envelope.read v = .ok e) : Query.envelopeIn? s.toUTF8.toList = some e := by
  rw [Query.envelopeIn?, Json.ofBytes?_toUTF8 (List.all_eq_true.mp hplain), htext]
  simp only [hread, Except.toOption]

/-- A good answer with the bytes of a plain text carries the envelope that is read from it. -/
theorem Query.envelopeOf_toUTF8 (q : Query) {s : String} {v : Value} {e : Envelope}
    (hplain : s.toList.all Json.isPlain = true) (htext : Json.ofText? s = some v)
    (hread : Envelope.read v = .ok e) :
    q.envelopeOf (.answered 200 s.toUTF8.toList) = .ok e := by
  simp only [envelopeOf, envelopeIn?_toUTF8 hplain htext hread]
  rfl

end VoucherDesk
