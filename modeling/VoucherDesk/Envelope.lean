import VoucherDesk.Reading.Lenient

/-!
# Envelopes

Every reply of the server is an envelope: whether the request was granted, a message, and
data of any kind. Options come as items of a name and a value, and are sent the same way.
-/

namespace VoucherDesk

open Reading

/-- What a reply says: whether the request was granted, a message and data. -/
structure Envelope where
  success : Bool
  message : String := ""
  data : Value := .null

namespace Envelope

/-- Reads an envelope; only the flag has to be there. -/
def read (v : Value) : Checked Envelope := do
  let fields ← fieldsOf v
  let (success, message, data) ←
    both (required fields "success" Reading.bool) <|
    both (field fields "message" "" Reading.text) <|
    field fields "data" .null .ok
  return ⟨success, message, data⟩

/-- The envelope by name. -/
def toFields (e : Envelope) : Fields :=
  [("success", .bool e.success), ("message", .text e.message), ("data", e.data)]

end Envelope

/-- An option: its name and its value. -/
structure OptionItem where
  key : String
  value : Value

namespace OptionItem

/-- Reads an option as the server lists it; a value that is absent is null. -/
def read (v : Value) : Checked OptionItem := do
  let fields ← fieldsOf v
  let (key, value) ← both (required fields "key" Reading.text) (field fields "value" .null .ok)
  return ⟨key, value⟩

/-- Reads an option as it is sent; the value has to be there. -/
def readSent (v : Value) : Checked OptionItem := do
  let fields ← fieldsOf v
  let (key, value) ← both (required fields "key" Reading.text) (required fields "value" .ok)
  return ⟨key, value⟩

/-- The option by name. -/
def toFields (item : OptionItem) : Fields := [("key", .text item.key), ("value", item.value)]

end OptionItem

end VoucherDesk
