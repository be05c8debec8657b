import VoucherDesk.Voucher.Reading
import VoucherDesk.Voucher.FormField

/-!
# Drafts

A draft is what the fields of a form hold. It is checked field by field in a fixed order,
quota, count, use limit and both ends of the window, and the first field that breaks its
rule decides. The count and the key matter for new vouchers only, the use limit for gifts
only. Whatever stands for the name is written as a text.
-/

namespace VoucherDesk.Draft

/-- What an empty form holds. -/
def defaults : Fields :=
  [("name", .text ""), ("quota", .int 100000), ("count", .int 1), ("is_gift", .bool false),
    ("max_uses", .int unlimitedUses), ("valid_from", .int 0), ("valid_until", .int 0)]

/-- The use limit of an entry: blank means unlimited. -/
def useLimit (v : Value) : Except Failure Int :=
  if FormField.isBlank v then .ok unlimitedUses
  else FormField.intWhere "max_uses" v .useLimit fun n => n = unlimitedUses ∨ 1 ≤ n

/-- The name of an entry: what counts as false stands for no name. -/
def name (v : Value) : Except Failure String :=
  if v.isWritten then .ok (v.orElse (.text "")).plain else .error .unwritableNumber

/-- The voucher that a draft describes; an editing number that is null asks for new vouchers. -/
def toVoucher (inputs : Fields) (key editingId : Value) : Except Failure Voucher := do
  let entry := Value.fieldOf inputs
  let isNew := editingId.isNull
  let quota ← FormField.intWhere "quota" (entry "quota") .positive (0 < ·)
  let count ←
    if isNew then FormField.intWhere "count" (entry "count") .atLeastOne (1 ≤ ·) else .ok 1
  let kind ←
    if (entry "is_gift").isTruthy then (useLimit (entry "max_uses")).map VoucherKind.gift
    else .ok .standard
  let name ← name (entry "name")
  let validFrom ← FormField.timestamp "valid_from" (entry "valid_from")
  let validUntil ← FormField.timestamp "valid_until" (entry "valid_until")
  Voucher.readAround
    [("id", editingId), ("name", .text name), ("quota", .int quota), ("count", .int count),
      ("key", if isNew then key else .null), ("valid_from", .int validFrom),
      ("valid_until", .int validUntil)]
    (.ok kind)

end VoucherDesk.Draft
