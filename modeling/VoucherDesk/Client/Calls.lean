import VoucherDesk.Dialogue.Turn

/-!
# Calls of the client

Every call asks one query and ends with the envelope in the reply, the option list with the
options by name. An option that is no option is not sent, and neither is a number of a voucher
that is too long to be written into a path.
-/

namespace VoucherDesk.Client

open Dialogue

/-- What can be asked through the client. -/
inductive Call where
  | showVoucher (id : Value)
  | createVouchers (payload : Value)
  | updateVoucher (payload : Value)
  | listOptions
  | storeOption (key value : Value)

/-- Where a call waits. -/
inductive Stage where
  /-- For the reply to a query. -/
  | asking (q : Query)
  /-- For the option list. -/
  | listing

/-- What a call gives. -/
inductive Result where
  | envelope (e : Envelope)
  | options (fields : Fields)

/-- Begins a call with its query. -/
def askFor (q : Query) : Turn Unit Stage Result := .waitFor () (.query q) (.asking q)

/-- The first turn of a call. -/
def begin : Call → Turn Unit Stage Result
  | .showVoucher id =>
    if id.isWritten then askFor (.showVoucher id) else .finish () (.error .unwritableNumber)
  | .createVouchers payload => askFor (.createVouchers payload)
  | .updateVoucher payload => askFor (.updateVoucher payload)
  | .listOptions => .waitFor () (.query .listOptions) .listing
  | .storeOption key value =>
    match OptionItem.readSent (.record [("key", key), ("value", value)]) with
    | .ok item => askFor (.storeOption item)
    | .error problems => .finish () (.error (.unreadable problems))

/-- The last turn of a call. -/
def resume : Stage → Answer → Turn Unit Stage Result
  | .asking q, .reply _ r => .finish () ((q.envelopeOf r).map .envelope)
  | .listing, .reply _ r => .finish () ((Query.optionsOf r).map .options)
  | stage, _ => { state := (), next := .waits [] stage }

/-- The calls of the client. -/
def controller : Controller Unit Call Stage Result where
  begin _ := begin
  resume _ := resume
  remaining _ := 1

end VoucherDesk.Client
