import VoucherDesk.Text.Blank
import VoucherDesk.Text.Digit

/-!
# Plain numerals

A plain numeral has decimal digits of any script, with blanks around it, one sign before it,
and single underscores between its digits.
-/

namespace VoucherDesk.Text

/-- The number that digits with single underscores between them denote, after the number `n` of
the digits before; `last` tells whether a digit came last. -/
def digitsNumber? : (last : Bool) → (n : Nat) → List Char → Option Nat
  | last, n, [] => if last then some n else none
  | last, n, c :: rest =>
    if c = '_' then (if last then digitsNumber? false n rest else none)
    else (decimalValue? c.toNat).bind fun d => digitsNumber? true (n * 10 + d) rest

/-- The number that a plain numeral without a sign denotes. -/
def unsignedNumber? (cs : List Char) : Option Nat :=
  if maxDigits < (cs.filter (· != '_')).length then none else digitsNumber? false 0 cs

/-- The whole number that a plain numeral denotes. -/
def plainNumber? (s : String) : Option Int :=
  match trimChars s.toList with
  | '+' :: cs => (unsignedNumber? cs).map Int.ofNat
  | '-' :: cs => (unsignedNumber? cs).map fun n => -(n : Int)
  | cs => (unsignedNumber? cs).map Int.ofNat

end VoucherDesk.Text
