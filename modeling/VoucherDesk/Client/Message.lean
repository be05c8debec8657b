import VoucherDesk.Client.Basic
import VoucherDesk.Json.Writer

/-!
# Messages

A request goes over a connection as lines of a head, an empty line and a body, and the
answer comes back in the same form on a connection that closes after it. The body of an
answer comes in chunks with their lengths before them, or has the length that the head
says, or reaches to the end.
-/

namespace VoucherDesk

/-- What ends a line of a message. -/
private def lineEnd : String := "\r\n"

namespace Request

/-- The host and the port that a request names. -/
def hostText (r : Request) : String :=
  { r.address with user := "" }.authority

/-- The bytes of what is sent along. -/
def bodyBytes (r : Request) : List UInt8 :=
  if r.body.isNull then [] else (String.ofList (Json.write r.body)).toUTF8.toList

/-- The lines of the head of a request. -/
def head (r : Request) : List String :=
  [r.method.name ++ " " ++ r.address.target ++ " HTTP/1.1", "Host: " ++ r.hostText,
    "Accept: " ++ accept, "Connection: close", "Content-Length: " ++ toString r.bodyBytes.length]
  ++ (r.authorization.map ("Authorization: " ++ ·)).toList
  ++ (r.contentType.map ("Content-Type: " ++ ·)).toList

/-- The bytes of a request. -/
def message (r : Request) : List UInt8 :=
  (String.join (r.head.map (· ++ lineEnd)) ++ lineEnd).toUTF8.toList ++ r.bodyBytes

end Request

namespace Reply

/-- The first line of a message and what follows it. -/
def takeLine : List UInt8 → Option (List UInt8 × List UInt8)
  | [] => none
  | 0x0D :: 0x0A :: rest => some ([], rest)
  | b :: rest => (takeLine rest).map fun (line, after) => (b :: line, after)

/-- A line as text, its bytes as the first code points. -/
private def lineText (line : List UInt8) : String :=
  String.ofList (line.map fun b => Char.ofNat b.toNat)

/-- A line of a head: a name in lower case and a value. -/
private def headField (line : List UInt8) : String × String :=
  let cs := (lineText line).toList
  let name := cs.takeWhile (· != ':')
  (String.ofList (name.map Char.toLower), Text.trim (String.ofList (cs.drop (name.length + 1))))

/-- The fields of a head up to the empty line, for at most a number of lines. -/
def takeHead : (lines : Nat) → List UInt8 → Option (List (String × String) × List UInt8)
  | 0, _ => none
  | lines + 1, bytes => do
    let (line, rest) ← takeLine bytes
    if line.isEmpty then return ([], rest)
    let (fields, body) ← takeHead lines rest
    return (headField line :: fields, body)

/-- The number that a text denotes in base sixteen, a note after it left out. -/
private def chunkLength? (s : String) : Option Nat :=
  let ds := s.toList.takeWhile fun c => c != ';' && c != ' '
  if !ds.isEmpty && ds.all Text.isHexDigit then some (Text.hexValue ds) else none

/-- A body in chunks; the chunk of length zero is the last. -/
def joinChunks : (chunks : Nat) → List UInt8 → Option (List UInt8)
  | 0, _ => none
  | chunks + 1, bytes => do
    let (line, rest) ← takeLine bytes
    let length ← chunkLength? (lineText line)
    if length = 0 then return []
    if rest.length < length then none
    else return rest.take length ++ (← joinChunks chunks ((rest.drop length).drop 2))

/-- The body of an answer with the fields of its head. -/
def bodyOf (fields : List (String × String)) (bytes : List UInt8) : Option (List UInt8) :=
  if (fields.lookup "transfer-encoding").any fun v => v.map Char.toLower == "chunked" then
    joinChunks (bytes.length + 1) bytes
  else match (fields.lookup "content-length").bind String.toNat? with
    | some length => if bytes.length < length then none else some (bytes.take length)
    | none => some bytes

/-- The status in the first line of an answer. -/
private def statusOf? (line : List UInt8) : Option Int :=
  match (lineText line).splitOn " " with
  | version :: status :: _ =>
    if version.startsWith "HTTP/1." then status.toNat?.map Int.ofNat else none
  | _ => none

/-- The answer that the bytes of a message hold, if they hold one. -/
def ofMessage? (bytes : List UInt8) : Option Reply := do
  let (line, rest) ← takeLine bytes
  let status ← statusOf? line
  let (fields, rest) ← takeHead (rest.length + 1) rest
  return .answered status (← bodyOf fields rest)

end Reply

end VoucherDesk
