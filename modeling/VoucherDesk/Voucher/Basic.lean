import VoucherDesk.Failure
import VoucherDesk.Text.Blank

/-!
# Vouchers

A voucher gives a quota to whoever redeems its key. A standard voucher is redeemed once, a
gift voucher up to a limit, and both may be bounded to a window of time, zero meaning no
bound. New vouchers are sent with a count and, when it is not blank, a key; a saved voucher
is sent with its number instead.
-/

namespace VoucherDesk

/-- The use limit of a gift voucher that may be redeemed any number of times. -/
def unlimitedUses : Int := -1

/-- Whether a voucher is redeemed once, or as a gift up to a limit. -/
inductive VoucherKind where
  | standard
  | gift (maxUses : Int)
  deriving DecidableEq, Repr

/-- A voucher, new or saved. -/
structure Voucher where
  id : Option Int := none
  name : String := ""
  quota : Int := 100000
  count : Int := 1
  key : Option String := none
  kind : VoucherKind := .standard
  validFrom : Int := 0
  validUntil : Int := 0
  deriving DecidableEq, Repr

namespace Voucher

/-- Whether the voucher is a gift. -/
def isGift (v : Voucher) : Bool :=
  match v.kind with
  | .gift _ => true
  | .standard => false

/-- The use limit of a gift, and no limit for any other voucher. -/
def maxUses (v : Voucher) : Int :=
  match v.kind with
  | .gift n => n
  | .standard => unlimitedUses

/-- What is sent of every voucher. -/
def commonPayload (v : Voucher) : Fields :=
  [("name", .text v.name), ("quota", .int v.quota), ("is_gift", .bool v.isGift),
    ("max_uses", .int v.maxUses), ("valid_from", .int v.validFrom),
    ("valid_until", .int v.validUntil)]

/-- The key without blanks around it, unless nothing is left. -/
def trimmedKey? (v : Voucher) : Option String :=
  let key := Text.trim (v.key.getD "")
  if key.isEmpty then none else some key

/-- What is sent to create vouchers: the count and the trimmed key besides. -/
def createPayload (v : Voucher) : Fields :=
  v.commonPayload ++ [("count", .int v.count)]
    ++ (v.trimmedKey?.map fun key => ("key", Value.text key)).toList

/-- What is sent to change a saved voucher: its number besides. -/
def updatePayload (v : Voucher) : Except Failure Fields :=
  match v.id with
  | some id => .ok (v.commonPayload ++ [("id", .int id)])
  | none => .error .updateWithoutId

/-- Whether the window is open at one end or its first second lies before its last. -/
def hasWindow (v : Voucher) : Bool :=
  !(0 < v.validFrom && 0 < v.validUntil && v.validUntil ≤ v.validFrom)

/-- Refuses a voucher whose window is empty. -/
def validate (v : Voucher) : Except Failure Unit :=
  if v.hasWindow then .ok ()
  else .error (.fault (.timeWindow (.int v.validFrom) (.int v.validUntil)))

end Voucher

end VoucherDesk
