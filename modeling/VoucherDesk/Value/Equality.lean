import VoucherDesk.Value.Basic

/-!
# Equality of values

Truth values, whole numbers and doubles are equal when they are equal as numbers, without
rounding: `true`, `1` and `1.0` are equal, and `nan` is equal to nothing. Lists are equal
place by place; records are equal when they have the same names with equal values, in any
order. Values of different kinds otherwise differ.
-/

namespace VoucherDesk.Value

/-- Equality of a number with a value. -/
private def numSame (n : Int) : Value → Bool
  | .bool b => n == (if b then 1 else 0)
  | .int m => n == m
  | .double x => x.eqInt n
  | _ => false

mutual

/-- Equality of values. -/
def same : Value → Value → Bool
  | .null, .null => true
  | .bool b, w => numSame (if b then 1 else 0) w
  | .int n, w => numSame n w
  | .double x, .double y => x.numEq y
  | .double x, .int n => x.eqInt n
  | .double x, .bool b => x.eqInt (if b then 1 else 0)
  | .text s, .text t => s == t
  | .moment s, .moment t => s.same t
  | .list xs, .list ys => sameList xs ys
  | .record xs, .record ys => xs.length == ys.length && sameFields xs ys
  | _, _ => false

/-- Equality of lists place by place. -/
def sameList : List Value → List Value → Bool
  | [], [] => true
  | x :: xs, y :: ys => same x y && sameList xs ys
  | _, _ => false

/-- Whether every named value has an equal one of the same name in the other record. -/
def sameFields : List (String × Value) → List (String × Value) → Bool
  | [], _ => true
  | (name, x) :: rest, ys =>
    (match ys.lookup name with
      | some y => same x y
      | none => false) && sameFields rest ys

end

end VoucherDesk.Value
