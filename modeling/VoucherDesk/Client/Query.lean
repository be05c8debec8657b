import VoucherDesk.Envelope
import VoucherDesk.Log
import VoucherDesk.Json.Encoding
import VoucherDesk.Value.Display

/-!
# Queries and replies

A query is what the desk asks of the server: to show a voucher, to create vouchers, to change
one, to list the options or to store one. A reply is a status with bytes, or the way in which
the connection failed. A reply is read in a fixed order: a broken connection, an unknown
path and a fault of the server come before the bytes are looked at, and bytes that hold no
envelope are a fault whose kind depends on the status.
-/

namespace VoucherDesk

/-- The verbs of queries. -/
inductive Method where
  | get
  | post
  | put
  deriving DecidableEq, Repr

/-- The name of a verb. -/
def Method.name : Method → String
  | .get => "GET"
  | .post => "POST"
  | .put => "PUT"

/-- What is asked of the server. -/
structure Query where
  method : Method
  path : String
  /-- What is sent along, `null` for nothing. -/
  payload : Value := .null
  /-- Why the path cannot be written, if it cannot. -/
  refusal : Option Failure := none

/-- What comes back for a query. -/
inductive Reply where
  /-- The server answered. -/
  | answered (status : Int) (body : List UInt8)
  /-- The connection failed before the server answered. -/
  | broken (text : String)
  /-- The query was not sent, or the answer was lost, for a reason outside the connection. -/
  | lost (e : Failure)

namespace Query

/-- Shows one voucher; a number that is too long cannot be written into the path. -/
def showVoucher (id : Value) : Query :=
  { method := .get, path := "/api/redemption/" ++ id.plain
    refusal := if id.isWritten then none else some .unwritableNumber }

/-- Creates vouchers. -/
def createVouchers (payload : Value) : Query :=
  { method := .post, path := "/api/redemption/", payload }

/-- Changes a voucher. -/
def updateVoucher (payload : Value) : Query :=
  { method := .put, path := "/api/redemption/", payload }

/-- Lists the options. -/
def listOptions : Query := { method := .get, path := "/api/option/" }

/-- Stores one option. -/
def storeOption (item : OptionItem) : Query :=
  { method := .put, path := "/api/option/", payload := .record item.toFields }

/-- The verb and the path. -/
def title (q : Query) : String := q.method.name ++ " " ++ q.path

/-- The entry that announces a query. -/
def announcement (q : Query) : LogEntry := ⟨.debug, .client, q.title⟩

/-- Whether a status says that the query was carried out. -/
def isSuccess (status : Int) : Bool := 200 ≤ status && status ≤ 299

/-- The envelope in the bytes of an answer, if they hold one. -/
def envelopeIn? (body : List UInt8) : Option Envelope :=
  match Json.ofBytes? body with
  | some v => (Envelope.read v).toOption
  | none => none

/-- The fault of bytes that hold no envelope. -/
def malformed (status : Int) : Fault :=
  if isSuccess status then .told .server "Malformed response from server" none (some status)
  else .told .application ("HTTP " ++ toString status) none (some status)

/-- The envelope that a reply carries, or the fault that it stands for. -/
def envelopeOf (q : Query) : Reply → Except Failure Envelope
  | .lost e => .error e
  | .broken text => .error (.fault (.told .transport ("Request failed: " ++ text) none none))
  | .answered status body =>
    if status = 404 then
      .error (.fault (.told .notFound (q.path ++ " not found") none (some 404)))
    else if 500 ≤ status then
      .error (.fault (.told .server ("Server error: HTTP " ++ toString status) none (some status)))
    else match envelopeIn? body with
      | some e => .ok e
      | none => .error (.fault (malformed status))

/-- The entries about a reply: a broken connection and a refusal are noted. -/
def remarks (q : Query) (r : Reply) : List LogEntry :=
  match r with
  | .broken text => [⟨.warning, .client, q.title ++ " failed: " ++ text⟩]
  | r =>
    match q.envelopeOf r with
    | .ok e => if e.success then [] else [⟨.info, .client, q.title ++ " rejected: " ++ e.message⟩]
    | .error _ => []

/-- The items that the data of an option list are made of, none when the data count as false. -/
def itemsOf (data : Value) : Except Failure (List Value) :=
  if !data.isTruthy then .ok []
  else match data.elements? with
    | some items => .ok items
    | none => .error .noOperation

/-- Options read one by one up to the first that is none. -/
def readItems : List Value → Except Failure (List OptionItem)
  | [] => .ok []
  | v :: rest =>
    match OptionItem.read v with
    | .error problems => .error (.unreadable problems)
    | .ok item => (readItems rest).map (item :: ·)

/-- The options that the reply to an option list carries. -/
def optionsOf (r : Reply) : Except Failure Fields :=
  match listOptions.envelopeOf r with
  | .error e => .error e
  | .ok envelope =>
    if !envelope.success then .error (.fault (.application envelope.message))
    else match itemsOf envelope.data with
      | .error e => .error e
      | .ok values =>
        (readItems values).map fun items =>
          Fields.ofPairs (items.map fun item => (item.key, item.value))

end Query

end VoucherDesk
