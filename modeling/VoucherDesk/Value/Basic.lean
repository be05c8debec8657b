import VoucherDesk.Double.Basic
import VoucherDesk.Calendar.Moment

/-!
# Values

The values that forms, options and replies hold. A record is an ordered list of named
values in which every name occurs once: putting a value under a name that is present
keeps the place of the name.
-/

namespace VoucherDesk

/-- A value of a form field, an option or a reply. -/
inductive Value where
  | null
  | bool (b : Bool)
  | int (n : Int)
  | double (x : Double)
  | text (s : String)
  | moment (t : Moment)
  | list (items : List Value)
  | record (fields : List (String × Value))
  deriving Inhabited

/-- Named values in order. -/
abbrev Fields := List (String × Value)

namespace Fields

/-- The value under a name. -/
def get? (fields : Fields) (name : String) : Option Value := fields.lookup name

/-- The names in order. -/
def names (fields : Fields) : List String := fields.map Prod.fst

/-- Puts a value under a name, at the place of the name if it is present and last otherwise. -/
def put : Fields → String → Value → Fields
  | [], name, v => [(name, v)]
  | (n, w) :: rest, name, v =>
    if n = name then (n, v) :: rest else (n, w) :: put rest name v

/-- Named values in which a repeated name keeps its first place and takes its last value. -/
def ofPairs (pairs : List (String × Value)) : Fields :=
  pairs.foldl (fun fields p => fields.put p.1 p.2) []

end Fields

namespace Value

/-- The value under a name, `null` when there is none. -/
def fieldOf (fields : Fields) (name : String) : Value := (fields.get? name).getD .null

/-- A value counts as false when it is null, false, zero, or an empty text, list or record. -/
def isTruthy : Value → Bool
  | .null => false
  | .bool b => b
  | .int n => n != 0
  | .double x => !x.isZero
  | .text s => !s.isEmpty
  | .moment _ => true
  | .list items => !items.isEmpty
  | .record fields => !fields.isEmpty

/-- Whether the value is null. -/
def isNull : Value → Bool
  | .null => true
  | _ => false

/-- The values that a value is made of: the items of a list, the names of a record, the characters
of a text; other values are not made of values. -/
def elements? : Value → Option (List Value)
  | .list items => some items
  | .record fields => some (fields.map fun p => .text p.1)
  | .text s => some (s.toList.map fun c => .text (String.singleton c))
  | _ => none

/-- The value itself when it counts as true, otherwise the one given. -/
def orElse (v w : Value) : Value := if v.isTruthy then v else w

end Value

end VoucherDesk
