import VoucherDesk.Voucher.Draft
import VoucherDesk.Label
import VoucherDesk.Export
import VoucherDesk.Dialogue.Turn

/-!
# Forms

A form holds the draft of a voucher. It either creates vouchers or edits the one whose number
it was given, and never changes from one to the other. Its fields are edited one by one; the
voucher that it builds must have a window, and a new voucher without a name is named after
its quota.
-/

namespace VoucherDesk

open Dialogue

/-- A form, with the directory in which it keeps generated codes. -/
structure Form where
  settings : Settings
  /-- The number of the voucher that is edited, `null` for new vouchers. -/
  editingId : Value := .null
  /-- The hooks that are called after a save. -/
  hooks : List Hook := []
  /-- The directory for generated codes; an empty name stands for that of the settings. -/
  exportDirectory : String := ""
  files : FileTree := {}
  inputs : Fields := Draft.defaults
  key : Value := .text ""
  loading : Bool := false
  submitting : Bool := false
  /-- The path of the codes that were kept last. -/
  exportPath : Option String := none

namespace Form

/-- A form as it is before it is opened; one that edits waits for its voucher. -/
def create (settings : Settings) (editingId : Value) (hooks : List Hook)
    (exportDirectory : String) (files : FileTree) : Form :=
  { settings, editingId, hooks, exportDirectory, files, loading := !editingId.isNull }

/-- Whether the form edits a saved voucher. -/
def isEdit (f : Form) : Bool := !f.editingId.isNull

/-- The form with an empty draft. -/
def reset (f : Form) : Form := { f with inputs := Draft.defaults, key := .text "" }

/-- The form with another value in a field; there are no fields but those of the draft. -/
def setField (f : Form) (name : String) (value : Value) : Except Failure Form :=
  if (f.inputs.get? name).isSome then .ok { f with inputs := f.inputs.put name value }
  else .error (.missingKey (Text.quoted name))

/-- The form with another key. -/
def setKey (f : Form) (value : Value) : Form := { f with key := value }

/-- The fields of a form that shows a voucher. -/
def inputsOf (v : Voucher) : Fields :=
  [("name", .text v.name), ("quota", .int v.quota), ("count", .int v.count),
    ("is_gift", .bool v.isGift), ("max_uses", .int v.maxUses), ("valid_from", .int v.validFrom),
    ("valid_until", .int v.validUntil)]

/-- The voucher that the form describes, if it is valid. -/
def build (f : Form) : Except Failure Voucher := do
  let v ← Draft.toVoucher f.inputs f.key f.editingId
  v.validate
  if !f.isEdit && v.name.isEmpty then
    let name ← Label.quota f.settings (.int v.quota) none
    return { v with name }
  else return v

/-- The query that saves a voucher. -/
def saveQuery (f : Form) (v : Voucher) : Except Failure Query :=
  if f.isEdit then v.updatePayload.map fun payload => .updateVoucher (.record payload)
  else .ok (.createVouchers (.record v.createPayload))

/-- The directory for generated codes. -/
def codeDirectory (f : Form) : String :=
  if f.exportDirectory.isEmpty then f.settings.exportDir else f.exportDirectory

end Form

end VoucherDesk
