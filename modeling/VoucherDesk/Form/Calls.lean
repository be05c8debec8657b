import VoucherDesk.Form.Basic

/-!
# Calls of a form

Opening a form that edits loads its voucher; every failure to load that is a fault is told to
the operator and given back. Submitting builds the voucher, saves it and then calls the
hooks: refresh, close, and for generated codes the question whether to keep them. From the
first turn until the last hook has ended no other submission is let in. A fault of refresh
or close is told and the other hooks are still called.
-/

namespace VoucherDesk.Form

open Dialogue

/-- What can be asked of a form. -/
inductive Call where
  | openForm
  | load (id : Value)
  | reset
  | setField (name : String) (value : Value)
  | setKey (value : Value)
  | build
  | submit

/-- A voucher that was saved, with the data of the reply. -/
structure Saved where
  voucher : Voucher
  data : Value

/-- Where a call of a form waits. -/
inductive Stage where
  /-- For the voucher with a number. -/
  | fetching (id : Value)
  /-- For the reply to the query that saves a voucher. -/
  | saving (v : Voucher) (q : Query)
  /-- For the end of the refresh hook. -/
  | refreshing (s : Saved)
  /-- For the end of the close hook. -/
  | closing (s : Saved)
  /-- For the answer whether codes are to be kept. -/
  | confirming (name : String) (codes : List String)

/-- What a call of a form gives. -/
inductive Result where
  | nothing
  | voucher (v : Voucher)
  | accepted (b : Bool)

/-- A turn of a call of a form. -/
abbrev FormTurn := Turn Form Stage Result

/-- The fault of a reply that shows no voucher. -/
def malformedRecord : Failure :=
  .fault (.told .server "Malformed redemption record" none none)

/-- What was read when a voucher could not be: its kind, or the voucher itself. -/
def readSubject (problems : List Problem) : String :=
  if problems.any fun p => p.place.head? = some "max_uses" then "GiftKind" else "RedemptionCode"

/-- The voucher in the envelope that shows it, and what there is to log about it. -/
def voucherIn (id : Value) (envelope : Envelope) : Except Failure Voucher × List Effect :=
  if !envelope.success then (.error (.fault (.application envelope.message)), [])
  else match envelope.data with
    | .record fields =>
      match Voucher.ofWire fields with
      | .ok v => (.ok v, [])
      | .error (.unreadable problems) =>
        (.error malformedRecord,
          [.log ⟨.warning, .form, "Malformed redemption record " ++ id.plain ++ ": "
            ++ Problem.countText problems (readSubject problems)⟩])
      | .error e => (.error e, [])
    | _ => (.error malformedRecord, [])

/-- Begins to load a voucher. -/
def fetch (f : Form) (id : Value) : FormTurn :=
  .waitFor { f with loading := true } (.query (.showVoucher id)) (.fetching id)

/-- Ends loading with the reply: the voucher fills the fields, a fault is told. -/
def fetched (f : Form) (id : Value) (r : Reply) : FormTurn :=
  let f := { f with loading := false }
  match (Query.showVoucher id).envelopeOf r with
  | .error (.fault e) => (Turn.finish f (.error (.fault e))).after [.error e.message]
  | .error e => .finish f (.error e)
  | .ok envelope =>
    match voucherIn id envelope with
    | (.ok v, effects) =>
      (Turn.finish { f with inputs := inputsOf v } (.ok (.voucher v))).after effects
    | (.error (.fault e), effects) =>
      (Turn.finish f (.error (.fault e))).after (effects ++ [.error e.message])
    | (.error e, effects) => (Turn.finish f (.error e)).after effects

/-- Ends a submission and lets the next one in. -/
def endSubmit (f : Form) (r : Except Failure Bool) : FormTurn :=
  .finish { f with submitting := false } (r.map .accepted)

/-- Keeps the codes in a file and tells where. -/
def keepCodes (f : Form) (name : String) (codes : List String) : FormTurn :=
  match Export.write f.files f.codeDirectory name codes with
  | .error e => f.endSubmit (.error e)
  | .ok (files, path) =>
    ({ f with files, exportPath := some path }.endSubmit (.ok true)).after
      [.success ("Saved " ++ toString codes.length ++ " code(s) to " ++ path)]

/-- Asks whether generated codes are to be kept, if there are any. -/
def offerCodes (f : Form) (s : Saved) : FormTurn :=
  if f.isEdit || !s.data.isTruthy then f.endSubmit (.ok true)
  else match s.data.elements? with
    | none => f.endSubmit (.error .noOperation)
    | some items =>
      let codes := items.map Value.plain
      let name := s.voucher.name
      if f.hooks.contains .confirm then
        .waitFor f (.hook .confirm [.list (codes.map .text), .text (Export.fileName name)])
          (.confirming name codes)
      else f.endSubmit (.ok true)

/-- Calls the close hook, if there is one. -/
def callClose (f : Form) (s : Saved) : FormTurn :=
  if f.hooks.contains .close then .waitFor f (.hook .close []) (.closing s)
  else f.offerCodes s

/-- Calls the refresh hook, if there is one. -/
def callRefresh (f : Form) (s : Saved) : FormTurn :=
  if f.hooks.contains .refresh then .waitFor f (.hook .refresh []) (.refreshing s)
  else f.callClose s

/-- Goes on after a hook has ended: a fault is told, any other failure ends the submission. -/
def afterHook (f : Form) (h : Hook) (r : Except Failure Value) (goOn : FormTurn) : FormTurn :=
  match r with
  | .ok _ => goOn
  | .error (.fault e) =>
    goOn.after [.log ⟨.warning, .form, h.name ++ " after save failed: " ++ e.message⟩,
      .error e.message]
  | .error e => f.endSubmit (.error e)

/-- Goes on after the operator has answered whether to keep the codes. -/
def afterConfirm (f : Form) (name : String) (codes : List String) (r : Except Failure Value) :
    FormTurn :=
  match r with
  | .error e => f.endSubmit (.error e)
  | .ok answer => if answer.isTruthy then f.keepCodes name codes else f.endSubmit (.ok true)

/-- Goes on after the reply to the query that saves a voucher. -/
def saved (f : Form) (v : Voucher) (q : Query) (r : Reply) : FormTurn :=
  let f := { f with loading := false }
  match q.envelopeOf r with
  | .error (.fault e) => (f.endSubmit (.ok false)).after [.error e.message]
  | .error e => f.endSubmit (.error e)
  | .ok envelope =>
    if !envelope.success then (f.endSubmit (.ok false)).after [.error envelope.message]
    else if f.isEdit then
      (f.callRefresh ⟨v, envelope.data⟩).after
        [.log ⟨.info, .form, "Updated redemption code " ++ ((v.id.map Value.int).getD .null).plain⟩,
          .success "Redemption code updated"]
    else
      (f.reset.callRefresh ⟨v, envelope.data⟩).after
        [.log ⟨.info, .form, "Created " ++ toString v.count ++ " redemption code(s) named "
            ++ Text.quoted v.name⟩,
          .success "Redemption code created"]

/-- Begins a submission, unless another one has not ended or the draft is not valid. -/
def submit (f : Form) : FormTurn :=
  if f.submitting then
    (Turn.finish f (.ok (.accepted false))).after [.warning Fault.inProgress.message]
  else match f.build with
    | .error (.fault e) =>
      if e.isValidation then
        (Turn.finish f (.ok (.accepted false))).after [.error e.message]
      else .finish f (.error (.fault e))
    | .error e => .finish f (.error e)
    | .ok v =>
      match f.saveQuery v with
      | .error e => .finish f (.error e)
      | .ok q =>
        .waitFor { f with submitting := true, loading := true } (.query q) (.saving v q)

/-- The first turn of a call. -/
def begin (f : Form) : Call → FormTurn
  | .openForm => if f.isEdit then f.fetch f.editingId else .finish f.reset (.ok .nothing)
  | .load id => f.fetch id
  | .reset => .finish f.reset (.ok .nothing)
  | .setField name value =>
    match f.setField name value with
    | .ok g => .finish g (.ok .nothing)
    | .error e => .finish f (.error e)
  | .setKey value => .finish (f.setKey value) (.ok .nothing)
  | .build => .finish f (f.build.map .voucher)
  | .submit => f.submit

/-- The next turn of a call, once it is given what it waits for. -/
def resume (f : Form) : Stage → Answer → FormTurn
  | .fetching id, .reply _ r => f.fetched id r
  | .saving v q, .reply _ r => f.saved v q r
  | .refreshing s, .ended r => f.afterHook .refresh r (f.callClose s)
  | .closing s, .ended r => f.afterHook .close r (f.offerCodes s)
  | .confirming name codes, .ended r => f.afterConfirm name codes r
  | stage, _ => { state := f, next := .waits [] stage }

/-- The calls of a form. -/
def controller : Controller Form Call Stage Result where
  begin := begin
  resume := resume
  remaining
    | .fetching _ => 1
    | .saving .. => 4
    | .refreshing _ => 3
    | .closing _ => 2
    | .confirming .. => 1

end VoucherDesk.Form
