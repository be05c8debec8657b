import VoucherDesk.Voucher.Basic
import VoucherDesk.Reading.Lenient

/-!
# Reading vouchers

A voucher is read field by field, each leniently, with defaults for what is absent. In a
reply of the server the kind is told by a flag and a limit beside the other fields, and
null or empty fields stand for defaults.
-/

namespace VoucherDesk

open Reading

namespace VoucherKind

/-- The kind by name. -/
def toFields : VoucherKind → Fields
  | .standard => [("type", .text "standard")]
  | .gift n => [("type", .text "gift"), ("max_uses", .int n)]

/-- A tag that has to be one given word. -/
def readTag (word : String) : Value → Except Mismatch Unit
  | .text s => if s = word then .ok () else .error .literalError
  | _ => .error .literalError

/-- The named values of a gift voucher's kind. -/
def readGift (v : Value) : Checked VoucherKind := do
  let fields ← fieldsOf v
  let (_, n) ← both (field fields "type" () (readTag "gift"))
    (field fields "max_uses" unlimitedUses Reading.int)
  return .gift n

/-- The named values of a standard voucher's kind. -/
def readStandard (v : Value) : Checked VoucherKind := do
  let fields ← fieldsOf v
  let _ ← field fields "type" () (readTag "standard")
  return .standard

/-- A kind told by its tag; problems inside a kind are placed under its tag. -/
def read (v : Value) : Checked VoucherKind :=
  match v with
  | .record fields =>
    match Fields.get? fields "type" with
    | none => .error [⟨[], .tagNotFound⟩]
    | some (.text "gift") => (readGift v).mapError (List.map (Problem.under "gift"))
    | some (.text "standard") => (readStandard v).mapError (List.map (Problem.under "standard"))
    | some _ => .error [⟨[], .tagInvalid⟩]
  | _ => .error [⟨[], .attributesType⟩]

end VoucherKind

namespace Voucher

/-- The voucher by name. -/
def toFields (v : Voucher) : Fields :=
  [("id", (v.id.map Value.int).getD .null), ("name", .text v.name), ("quota", .int v.quota),
    ("count", .int v.count), ("key", (v.key.map Value.text).getD .null),
    ("kind", .record v.kind.toFields), ("valid_from", .int v.validFrom),
    ("valid_until", .int v.validUntil)]

/-- The fields of a voucher around a kind that is already read. -/
def readAround (fields : Fields) (kind : Checked VoucherKind) : Except Failure Voucher :=
  let checked :=
    both (field fields "id" none intOrNull) <|
    both (field fields "name" "" Reading.text) <|
    both (field fields "quota" 100000 Reading.int) <|
    both (field fields "count" 1 Reading.int) <|
    both (field fields "key" none textOrNull) <|
    both (kind.mapError (List.map (Problem.under "kind"))) <|
    both (field fields "valid_from" 0 Reading.int)
      (field fields "valid_until" 0 Reading.int)
  match checked with
  | .ok (id, name, quota, count, key, kind, validFrom, validUntil) =>
    .ok ⟨id, name, quota, count, key, kind, validFrom, validUntil⟩
  | .error problems => .error (.unreadable problems)

/-- The voucher with the given fields, defaults standing for what is absent. -/
def ofFields (fields : Fields) : Except Failure Voucher :=
  readAround fields <|
    match fields.get? "kind" with
    | some v => VoucherKind.read v
    | none => .ok .standard

/-- The value given, or the default in place of null. -/
def orDefault (v : Value) (default : Int) : Value := if v.isNull then .int default else v

/-- The voucher that a reply of the server holds. -/
def ofWire (data : Fields) : Except Failure Voucher := do
  let kind ←
    if (Value.fieldOf data "is_gift").isTruthy then
      let uses := orDefault (Value.fieldOf data "max_uses") unlimitedUses
      match located "max_uses" (Reading.int uses) with
      | .ok n => .ok (VoucherKind.gift n)
      | .error problems => .error (Failure.unreadable problems)
    else .ok .standard
  readAround
    [("id", Value.fieldOf data "id"),
      ("name", (Value.fieldOf data "name").orElse (.text "")),
      ("quota", orDefault (Value.fieldOf data "quota") 0),
      ("count", (Value.fieldOf data "count").orElse (.int 1)),
      ("key", Value.fieldOf data "key"),
      ("valid_from", (Value.fieldOf data "valid_from").orElse (.int 0)),
      ("valid_until", (Value.fieldOf data "valid_until").orElse (.int 0))]
    (.ok kind)

end Voucher

end VoucherDesk
