import VoucherDesk.Client.Basic
import VoucherDesk.Proofs.Voucher.Revision

/-!
# Numbers that can be sent

A whole number is sent when it has at most 4300 digits. Longer numerals are not read, and
doubles and timestamps do not come near. So a revision is sent when the numbers of the
voucher and the whole numbers among the edits can be.
-/

namespace VoucherDesk

namespace Value

/-- A whole number is short enough when it is below a power of ten. -/
theorem isWrittenInt_iff {n : Int} : isWrittenInt n = true ↔ n.natAbs < 10 ^ Text.maxDigits := by
  unfold isWrittenInt
  rw [decide_eq_true_iff]
  exact Nat.length_toDigits_le_iff (by decide) (by decide)

/-- No floor of a double is too long. -/
theorem isWrittenInt_floor? {x : Double} (hx : x.InFormat) {n : Int} (h : x.floor? = some n) :
    isWrittenInt n = true := by
  have hbound := hx.natAbs_floor?_le h
  have hexponent : 1024 ≤ Text.maxDigits := by decide
  generalize 1024 = k at hbound hexponent
  rw [isWrittenInt_iff]
  calc n.natAbs ≤ 2 ^ k := hbound
    _ ≤ 2 ^ Text.maxDigits := Nat.pow_le_pow_right (by decide) hexponent
    _ < 10 ^ Text.maxDigits := Nat.pow_lt_pow_left (by decide) (by decide)

/-- Whether an entry is within the limits of its kind: a whole number is short enough to be written,
and a double is in the format. -/
def IsWithinLimits : Value → Prop
  | .int n => isWrittenInt n = true
  | .double x => x.InFormat
  | _ => True

end Value

namespace FormField

/-- Digits denote a number that has no more digits. -/
theorem digitsValue_lt {ds : List Char} (h : ∀ d ∈ ds, d.isDigit = true) :
    Text.digitsValue ds < 10 ^ ds.length := by
  have hfold (n : Nat) :
      ds.foldl (fun n d => n * 10 + (d.toNat - 48)) n < (n + 1) * 10 ^ ds.length := by
    induction ds generalizing n with
    | nil => simp
    | cons d rest ih =>
      obtain ⟨hd, hrest⟩ := List.forall_mem_cons.mp h
      have hdigit : d.toNat - 48 < 10 := by
        have hupper : d.toNat ≤ 57 := by
          simp only [Char.isDigit, Bool.and_eq_true, decide_eq_true_eq] at hd
          exact hd.2
        omega
      calc (d :: rest).foldl (fun n d => n * 10 + (d.toNat - 48)) n
          < (n * 10 + (d.toNat - 48) + 1) * 10 ^ rest.length := ih hrest _
        _ ≤ ((n + 1) * 10) * 10 ^ rest.length := Nat.mul_le_mul_right _ (by omega)
        _ = (n + 1) * 10 ^ (d :: rest).length := by
            rw [List.length_cons, Nat.pow_succ, Nat.mul_assoc, Nat.mul_comm 10]
  have hzero := hfold 0
  rw [Nat.zero_add, Nat.one_mul] at hzero
  exact hzero

/-- A numeral has digits only. -/
theorem isDigit_of_numeral? {cs : List Char} {negative : Bool} {ds : List Char}
    (h : numeral? cs = some (negative, ds)) : ∀ d ∈ ds, d.isDigit = true := by
  simp only [numeral?, Option.ite_none_right_eq_some, Option.some.injEq, Prod.mk.injEq,
    Bool.and_eq_true, List.all_eq_true] at h
  obtain ⟨⟨-, hdigits⟩, -, rfl⟩ := h
  exact hdigits

variable {field : String} {v : Value} {n : Int}

/-- A whole number that is read of an entry within the limits is short enough to be written. -/
theorem isWrittenInt_of_int (hv : v.IsWithinLimits) (h : int field v = .ok n) :
    Value.isWrittenInt n = true := by
  unfold int at h
  split at h
  · cases h
    exact hv
  · next x =>
    split at h
    · next hx =>
      cases h
      exact Value.isWrittenInt_floor? hv (Double.floor?_of_toInt? hx)
    · cases h
  · split at h
    · next negative ds hnumeral =>
      split at h
      · cases h
      · next hshort =>
        have hsize : n.natAbs = Text.digitsValue ds := by
          cases negative <;> cases h <;> simp
        rw [Value.isWrittenInt_iff, hsize]
        calc Text.digitsValue ds < 10 ^ ds.length := digitsValue_lt (isDigit_of_numeral? hnumeral)
          _ ≤ 10 ^ Text.maxDigits :=
              Nat.pow_le_pow_right (by decide) (Nat.le_of_not_lt hshort)
    · cases h
  · cases h

/-- A timestamp that is read of an entry within the limits is short enough to be written. -/
theorem isWrittenInt_of_timestamp (hv : v.IsWithinLimits) (h : timestamp field v = .ok n) :
    Value.isWrittenInt n = true := by
  unfold timestamp at h
  split at h
  · cases h
    decide
  · split at h
    · next t =>
      split at h
      · next ht =>
        cases h
        obtain ⟨x, hx, hfloor⟩ := Option.bind_eq_some_iff.mp ht
        exact Value.isWrittenInt_floor? (Moment.inFormat_epochDouble? hx) hfloor
      · cases h
    · exact isWrittenInt_of_int hv (intWhere_eq_ok.mp h).1

end FormField

/-- A use limit that is read of an entry within the limits is short enough to be written. -/
theorem isWrittenInt_of_readUses {v : Value} {n : Int} (hv : v.IsWithinLimits)
    (h : readUses v = .ok n) : Value.isWrittenInt n = true := by
  unfold readUses at h
  split at h
  · cases h
    decide
  · exact FormField.isWrittenInt_of_int hv h

namespace Revision

/-- Whether all numbers of a revision are short enough to be written. -/
structure IsWritten (r : Revision) : Prop where
  quota : Value.isWrittenInt r.quota = true
  maxUses : Value.isWrittenInt r.maxUses = true
  validFrom : Value.isWrittenInt r.validFrom = true
  validUntil : Value.isWrittenInt r.validUntil = true

/-- A revision is sent as it is. -/
theorem IsWritten.request_eq {r : Revision} (h : r.IsWritten) {id : Int}
    (hid : Value.isWrittenInt id = true) {c : Client} {address : Address}
    (haddress : Address.join c.base "/api/redemption/" = .ok address) :
    c.request (.updateVoucher (.record (r.body id))) =
      .ok ⟨.put, address, .record (r.body id), c.authorization address, c.timeout⟩ := by
  have hsendable : (Query.updateVoucher (.record (r.body id))).payload.unsendable? = none := by
    simp [Query.updateVoucher, body, Value.unsendable?, unsendableField?, h.quota, h.maxUses,
      h.validFrom, h.validUntil, hid]
  have hjoin : Address.join c.base (Query.updateVoucher (.record (r.body id))).path =
      .ok address := haddress
  unfold Client.request
  rw [hjoin]
  simp only [bind, Except.bind, hsendable]
  rfl

end Revision

/-- A revision has numbers that are short enough to be written, if the voucher has and the edits are
within the limits. -/
theorem Revises.isWritten {v : Voucher} {edits : List (String × Value)} {r : Revision}
    (h : Revises v edits r) (hloaded : (Revision.ofVoucher v).IsWritten)
    (hedits : ∀ e ∈ edits, e.2.IsWithinLimits) : r.IsWritten := by
  have hrevised {read : Value → Except Failure Int} {loaded n : Int} {field : String}
      (hread : ∀ {w}, w.IsWithinLimits → read w = .ok n → Value.isWrittenInt n = true)
      (hwritten : Value.isWrittenInt loaded = true)
      (hn : revised read loaded (Fields.lastEdit edits field) = .ok n) :
      Value.isWrittenInt n = true := by
    cases hlast : Fields.lastEdit edits field with
    | none =>
      rw [hlast] at hn
      cases hn
      exact hwritten
    | some edit =>
      rw [hlast] at hn
      exact hread (hedits _ (Fields.mem_of_lastEdit hlast)) hn
  refine ⟨hrevised FormField.isWrittenInt_of_int hloaded.quota h.quota, ?_,
    hrevised FormField.isWrittenInt_of_timestamp hloaded.validFrom h.validFrom,
    hrevised FormField.isWrittenInt_of_timestamp hloaded.validUntil h.validUntil⟩
  have huses := h.maxUses
  split at huses
  · exact hrevised isWrittenInt_of_readUses hloaded.maxUses huses
  · rw [huses]
    decide

end VoucherDesk
