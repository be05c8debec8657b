import VoucherDesk.Value.Basic
import VoucherDesk.Double.Decimal
import VoucherDesk.Text.Quoted
import VoucherDesk.Calendar.IsoText

/-!
# Display of values

Inside messages a value is displayed in the notation of its kind: texts quoted, doubles
with the fewest digits, lists in brackets, records in braces, moments as a list of their
parts. As plain text, a text is itself and a moment is its date and clock. A whole number
with more digits than a numeral may have is not written at all, and neither is a list or
record that holds one.
-/

namespace VoucherDesk

/-- The parts of a span of time that are not zero, as days, seconds and microseconds. -/
private def spanParts (micros : Int) : List String :=
  let day : Int := 86400000000
  let days := micros / day
  let rest := micros % day
  let part (name : String) (n : Int) : List String :=
    if n = 0 then [] else [name ++ "=" ++ toString n]
  part "days" days ++ part "seconds" (rest / 1000000) ++ part "microseconds" (rest % 1000000)

/-- The display of an offset. -/
private def Offset.display (o : Offset) : String :=
  if o.micros = 0 then "datetime.timezone.utc"
  else "datetime.timezone(datetime.timedelta(" ++ ", ".intercalate (spanParts o.micros) ++ "))"

/-- The display of a moment: its parts, seconds and microseconds only as far as they are needed. -/
def Moment.display (t : Moment) : String :=
  let c := t.clock
  let parts := [t.date.year, t.date.month, t.date.day, c.hour, c.minute]
    ++ (if c.second = 0 ∧ c.micro = 0 then [] else [c.second])
    ++ (if c.micro = 0 then [] else [c.micro])
  let zone := match t.offset with
    | some o => ["tzinfo=" ++ o.display]
    | none => []
  "datetime.datetime(" ++ ", ".intercalate (parts.map toString ++ zone) ++ ")"

namespace Value

/-- Whether a whole number is short enough to be written. -/
def isWrittenInt (n : Int) : Bool := (Nat.toDigits 10 n.natAbs).length ≤ Text.maxDigits

mutual

/-- Whether every whole number in a value is short enough to be written. -/
def isWritten : Value → Bool
  | .int n => isWrittenInt n
  | .list items => areWritten items
  | .record fields => areFieldsWritten fields
  | _ => true

/-- Whether the items of a list can be written. -/
def areWritten : List Value → Bool
  | [] => true
  | v :: rest => v.isWritten && areWritten rest

/-- Whether the named values of a record can be written. -/
def areFieldsWritten : List (String × Value) → Bool
  | [] => true
  | (_, v) :: rest => v.isWritten && areFieldsWritten rest

end

/-- The display of a truth value. -/
def boolText (b : Bool) : String := if b then "True" else "False"

mutual

/-- The display of a value inside a message. -/
def display : Value → String
  | .null => "None"
  | .bool b => boolText b
  | .int n => toString n
  | .double x => x.toText
  | .text s => Text.quoted s
  | .moment t => t.display
  | .list items => "[" ++ displayList items ++ "]"
  | .record fields => "\x7b" ++ displayFields fields ++ "\x7d"

/-- The displays of the items of a list, with commas between them. -/
def displayList : List Value → String
  | [] => ""
  | [x] => display x
  | x :: y :: rest => display x ++ ", " ++ displayList (y :: rest)

/-- The displays of the named values of a record, with commas between them. -/
def displayFields : List (String × Value) → String
  | [] => ""
  | [(name, x)] => Text.quoted name ++ ": " ++ display x
  | (name, x) :: p :: rest =>
    Text.quoted name ++ ": " ++ display x ++ ", " ++ displayFields (p :: rest)

end

/-- The value as plain text. -/
def plain : Value → String
  | .text s => s
  | .moment t => t.isoText " "
  | v => v.display

end Value

end VoucherDesk
