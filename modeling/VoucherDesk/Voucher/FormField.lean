import VoucherDesk.Failure
import VoucherDesk.Text.Blank
import VoucherDesk.Text.Digit
import VoucherDesk.Calendar.Timestamp

/-!
# Form fields

What an operator may enter where a whole number is asked for: the number itself, a double
with a whole value, or a text that holds an optional minus and ASCII digits, with blanks
around it. A truth value is never a number. A timestamp may also be left blank, which means
no bound, or be a moment.
-/

namespace VoucherDesk.FormField

/-- The sign and the digits of a numeral: an optional minus, then digits only. -/
def numeral? (cs : List Char) : Option (Bool × List Char) :=
  let negative := cs.head? == some '-'
  let ds := if negative then cs.drop 1 else cs
  if !ds.isEmpty && ds.all Char.isDigit then some (negative, ds) else none

/-- Whether an entry is blank or absent. -/
def isBlank : Value → Bool
  | .null => true
  | .text s => Text.isBlankText s
  | _ => false

/-- The fault of an entry that does not follow a rule of its field; there is none where the
message cannot be written. -/
def refuse (field : String) (v : Value) (rule : FieldRule) : Failure :=
  if v.isWritten then .fault (.fieldFormat field v rule) else .unwritableNumber

/-- The whole number of an entry. -/
def int (field : String) (v : Value) : Except Failure Int :=
  match v with
  | .int n => .ok n
  | .double x =>
    match x.toInt? with
    | some n => .ok n
    | none => .error (refuse field v .wholeNumber)
  | .text s =>
    match numeral? (Text.trimChars s.toList) with
    | some (negative, ds) =>
      if Text.maxDigits < ds.length then .error (.digitLimit ds.length)
      else .ok (if negative then -(Text.digitsValue ds : Int) else Text.digitsValue ds)
    | none => .error (refuse field v .wholeNumber)
  | _ => .error (refuse field v .wholeNumber)

/-- The whole number of an entry that has to satisfy a rule. -/
def intWhere (field : String) (v : Value) (rule : FieldRule) (ok : Int → Bool) :
    Except Failure Int := do
  let n ← int field v
  if ok n then return n else .error (refuse field v rule)

/-- The timestamp of an entry; a blank one is zero, which means no bound. -/
def timestamp (field : String) (v : Value) : Except Failure Int :=
  if isBlank v then .ok 0
  else match v with
    | .moment t =>
      match t.timestamp? with
      | some n => .ok n
      | none => .error .yearOutOfRange
    | v => intWhere field v .notNegative (0 ≤ ·)

end VoucherDesk.FormField
