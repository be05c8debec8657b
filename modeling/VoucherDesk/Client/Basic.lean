import VoucherDesk.Client.Address
import VoucherDesk.Client.Query
import VoucherDesk.Settings.Basic

/-!
# The client

The client knows where the server is, how to authorize itself and how long to wait. It turns
a query into a request, unless the query cannot be sent: a payload must not hold doubles that
are infinite or no numbers, whole numbers that are too long to be written, nor moments, and
the path must be valid in an address. A user in the address takes the place of the token.
-/

namespace VoucherDesk

/-- A query as it is sent. -/
structure Request where
  method : Method
  address : Address
  /-- What is sent along, `null` for nothing. -/
  body : Value
  authorization : Option String
  timeout : Value

namespace Request

/-- The kind of replies that are accepted. -/
def accept : String := "application/json"

/-- The kind of what is sent along. -/
def contentType (r : Request) : Option String :=
  if r.body.isNull then none else some "application/json"

end Request

mutual

/-- Why a value cannot be sent, if it cannot, from the first part that is at fault. -/
def Value.unsendable? : Value → Option Failure
  | .double x => if x.isFinite then none else some .unsendableNumber
  | .int n => if Value.isWrittenInt n then none else some .unwritableNumber
  | .moment _ => some .noOperation
  | .list items => unsendableItem? items
  | .record fields => unsendableField? fields
  | _ => none

/-- Why a list cannot be sent. -/
def unsendableItem? : List Value → Option Failure
  | [] => none
  | v :: rest => v.unsendable?.or (unsendableItem? rest)

/-- Why a record cannot be sent. -/
def unsendableField? : List (String × Value) → Option Failure
  | [] => none
  | (_, v) :: rest => v.unsendable?.or (unsendableField? rest)

end

/-- The digits of six bits. -/
private def sixBitDigit (n : Nat) : Char :=
  "ABCDEFGHIJKLMNOPQRSTUVWXYZabcdefghijklmnopqrstuvwxyz0123456789+/".toList.getD n '='

/-- Bytes in digits of six bits, four for every three bytes. -/
def sixBitText : List UInt8 → List Char
  | a :: b :: c :: rest =>
    let n := (a.toNat * 256 + b.toNat) * 256 + c.toNat
    [n / 262144, n / 4096 % 64, n / 64 % 64, n % 64].map sixBitDigit ++ sixBitText rest
  | [a, b] =>
    let n := (a.toNat * 256 + b.toNat) * 4
    [n / 4096, n / 64 % 64, n % 64].map sixBitDigit ++ ['=']
  | [a] =>
    let n := a.toNat * 16
    [n / 64, n % 64].map sixBitDigit ++ ['=', '=']
  | [] => []

/-- A client of the server. -/
structure Client where
  base : Address
  /-- The token, `none` when there is none. -/
  bearer : Option String
  timeout : Value

namespace Client

/-- The characters of a header that it cannot carry: the place of the first and how many stand
side by side there. -/
private def foreignRun? (cs : List Char) : Option (Char × Nat × Nat) :=
  let isForeign (c : Char) : Bool := 128 ≤ c.toNat
  let place := (cs.takeWhile fun c => !isForeign c).length
  match cs.drop place with
  | [] => none
  | c :: rest => some (c, place, 1 + (rest.takeWhile isForeign).length)

/-- A character by its code, in the shortest of three forms. -/
private def codeText (c : Char) : String :=
  let digits (width : Nat) : String :=
    let ds := Nat.toDigits 16 c.toNat
    String.ofList (List.replicate (width - ds.length) '0' ++ ds)
  if c.toNat < 256 then "\\x" ++ digits 2
  else if c.toNat < 65536 then "\\u" ++ digits 4
  else "\\U" ++ digits 8

/-- Refuses a header that holds characters beyond ASCII. -/
def checkHeader (value : String) : Except Failure Unit :=
  match foreignRun? value.toList with
  | none => .ok ()
  | some (c, place, count) =>
    let what := if count = 1 then "character '" ++ codeText c ++ "' in position " ++ toString place
      else "characters in position " ++ toString place ++ "-" ++ toString (place + count - 1)
    .error (.badHeader ("'ascii' codec can't encode " ++ what ++ ": ordinal not in range(128)"))

/-- The client for a server and a token; the settings stand in for what is absent, and for an
empty address. -/
def ofSettings (settings : Settings) (server token : Option String) (timeout : Value) :
    Except Failure Client := do
  let server := match server with
    | some s => if s.isEmpty then settings.apiBaseUrl else s
    | none => settings.apiBaseUrl
  let token := token.getD settings.adminAccessToken
  let bearer := if token.isEmpty then none else some ("Bearer " ++ token)
  let base ← Address.base (String.ofList (server.toList.reverse.dropWhile (· == '/')).reverse)
  match bearer with
  | some value => checkHeader value
  | none => .ok ()
  return ⟨base, bearer, if timeout.isNull then .double settings.requestTimeoutSeconds else timeout⟩

/-- What authorizes a request: the user of the address, or else the token. -/
def authorization (c : Client) (a : Address) : Option String :=
  let name := a.user.toList.takeWhile (· != ':')
  let word := a.user.toList.drop (name.length + 1)
  if name.isEmpty && word.isEmpty then c.bearer
  else
    let bytes := Address.unquoted name ++ [0x3A] ++ Address.unquoted word
    some ("Basic " ++ String.ofList (sixBitText bytes))

/-- The request for a query, or why there is none. -/
def request (c : Client) (q : Query) : Except Failure Request := do
  let address ← Address.join c.base q.path
  match q.payload.unsendable? with
  | some e => .error e
  | none => return ⟨q.method, address, q.payload, c.authorization address, c.timeout⟩

end Client

end VoucherDesk
