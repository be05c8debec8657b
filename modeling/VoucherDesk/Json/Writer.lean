import VoucherDesk.Value.Basic
import VoucherDesk.Double.Decimal

/-!
# Writing JSON

A value is written without white space, its names in order and its characters as they are;
only quotes, backslashes and control characters are escaped. Doubles are written with the
fewest digits that read back. Values that cannot be sent are not written as JSON: doubles
that are infinite or no numbers appear by their words, and moments as null.
-/

namespace VoucherDesk.Json

/-- A digit of base sixteen. -/
private def hexDigit (n : Nat) : Char := Nat.digitChar (n % 16)

/-- A character inside quotes. -/
def escaped (c : Char) : List Char :=
  match c with
  | '"' => ['\\', '"']
  | '\\' => ['\\', '\\']
  | '\n' => ['\\', 'n']
  | '\r' => ['\\', 'r']
  | '\t' => ['\\', 't']
  | '\x08' => ['\\', 'b']
  | '\x0c' => ['\\', 'f']
  | c =>
    if c.toNat < 32 then ['\\', 'u', '0', '0', hexDigit (c.toNat / 16), hexDigit c.toNat] else [c]

/-- A text in quotes. -/
def quoted (s : String) : List Char := '"' :: s.toList.flatMap escaped ++ ['"']

mutual

/-- The JSON text of a value. -/
def write : Value → List Char
  | .null => "null".toList
  | .bool b => if b then "true".toList else "false".toList
  | .int n => (toString n).toList
  | .double x => x.toText.toList
  | .text s => quoted s
  | .moment _ => "null".toList
  | .list items => '[' :: writeItems items ++ [']']
  | .record fields => '\x7b' :: writeMembers fields ++ ['\x7d']

/-- The items of a list with commas between them. -/
def writeItems : List Value → List Char
  | [] => []
  | [v] => write v
  | v :: rest => write v ++ ',' :: writeItems rest

/-- The named values of a record with commas between them. -/
def writeMembers : List (String × Value) → List Char
  | [] => []
  | [(name, v)] => quoted name ++ ':' :: write v
  | (name, v) :: rest => quoted name ++ ':' :: write v ++ ',' :: writeMembers rest

end

end VoucherDesk.Json
