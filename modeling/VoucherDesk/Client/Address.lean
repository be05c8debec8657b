import VoucherDesk.Client.HostName
import VoucherDesk.Failure
import VoucherDesk.Text.Numeral
import VoucherDesk.Text.Quoted

/-!
# Addresses

An address has a scheme, an authority of user, host and port, a path, and optionally a
query and a fragment. Reading one normalises it: scheme and host in lower case, the default
port left out, dot segments resolved, and every character that a part may not hold written
as percent codes, codes that are there being kept. A path is joined to a base by appending
it to the path of the base, which ends in a slash.
-/

namespace VoucherDesk

/-- An address in normal form. -/
structure Address where
  scheme : String
  user : String
  host : String
  port : Option Int
  path : String
  query : Option String
  fragment : Option String
  deriving DecidableEq, Repr

namespace Address

/-- The parts of an address as they are written. -/
structure Parts where
  scheme : String := ""
  authority : String := ""
  path : String := ""
  query : Option String := none
  fragment : Option String := none

/-- The most characters that an address or a part of one may have. -/
def maxLength : Nat := 65536

/-- A character of ASCII that is not printable, with its place. -/
private def unprintable? (cs : List Char) : Option (Char × Nat) :=
  let bad (c : Char) : Bool := c.toNat < 32 || c.toNat == 127
  (cs.find? bad).map fun c => (c, cs.idxOf c)

/-- Refuses a text that is too long or holds a control character; `what` names the part. -/
private def checkText (what : Option String) (s : String) : Except Failure Unit := do
  if maxLength < s.length then
    .error (.badAddress <| match what with
      | some name => "URL component '" ++ name ++ "' too long"
      | none => "URL too long")
  match unprintable? s.toList with
  | none => .ok ()
  | some (c, place) =>
    let part := match what with
      | some name => "URL " ++ name ++ " component"
      | none => "URL"
    .error (.badAddress ("Invalid non-printable ASCII character in " ++ part ++ ", "
      ++ Text.quoted (String.singleton c) ++ " at position " ++ toString place ++ "."))

/-- The characters that a scheme may begin with. -/
private def isSchemeStart (c : Char) : Bool := c.isAlpha

/-- The characters of a scheme. -/
private def isSchemeChar (c : Char) : Bool :=
  c.isAlphanum || c == '+' || c == '.' || c == '-'

/-- The scheme before a colon, if there is one, and the rest. -/
private def takeScheme (cs : List Char) : String × List Char :=
  let name := cs.takeWhile isSchemeChar
  match cs.drop name.length with
  | ':' :: rest =>
    if name.isEmpty || name.head?.any isSchemeStart then (String.ofList name, rest) else ("", cs)
  | _ => ("", cs)

/-- The parts of an address text. -/
def split (s : String) : Parts :=
  let (scheme, cs) := takeScheme s.toList
  let (authority, cs) := match cs with
    | '/' :: '/' :: rest =>
      let name := rest.takeWhile fun c => c != '/' && c != '?' && c != '#'
      (name, rest.drop name.length)
    | cs => ([], cs)
  let path := cs.takeWhile fun c => c != '?' && c != '#'
  let cs := cs.drop path.length
  let (query, cs) := match cs with
    | '?' :: rest =>
      let q := rest.takeWhile (· != '#')
      (some (String.ofList q), rest.drop q.length)
    | cs => (none, cs)
  let fragment := match cs with
    | '#' :: rest => some (String.ofList rest)
    | _ => none
  ⟨scheme, String.ofList authority, String.ofList path, query, fragment⟩

/-- A byte as a percent code. -/
private def percentCode (b : UInt8) : List Char :=
  let digit (n : Nat) : Char := (Nat.digitChar n).toUpper
  ['%', digit (b.toNat / 16), digit (b.toNat % 16)]

/-- Characters with percent codes for those that are not allowed; percent codes are kept. -/
private def quoteChars (allowed : Char → Bool) : List Char → List Char
  | '%' :: a :: b :: rest =>
    if Text.isHexDigit a && Text.isHexDigit b then '%' :: a :: b :: quoteChars allowed rest
    else quoteOne '%' ++ quoteChars allowed (a :: b :: rest)
  | c :: rest => quoteOne c ++ quoteChars allowed rest
  | [] => []
where
  /-- One character, or the percent codes of its bytes. -/
  quoteOne (c : Char) : List Char :=
    if allowed c then [c] else (String.singleton c).toUTF8.toList.flatMap percentCode

/-- The printable characters of ASCII but the space. -/
private def isVisible (c : Char) : Bool := 32 < c.toNat && c.toNat < 127

/-- The characters that a query may hold. -/
private def queryAllowed (c : Char) : Bool := isVisible c && !(['"', '#', '<', '>'].contains c)

/-- The characters that a path may hold. -/
private def pathAllowed (c : Char) : Bool :=
  queryAllowed c && !(['?', '\x60', '\x7b', '\x7d'].contains c)

/-- The characters that a fragment may hold. -/
private def fragmentAllowed (c : Char) : Bool :=
  isVisible c && !(['"', '<', '>', '\x60'].contains c)

/-- The characters that a user may hold. -/
private def userAllowed (c : Char) : Bool :=
  pathAllowed c && !(['/', ';', '=', '@', '[', '\\', ']', '^', '|'].contains c)

/-- The characters that a host may hold. -/
private def hostAllowed (c : Char) : Bool :=
  c.isAlphanum || "-._~!$&'()*+,;=\"\x60\x7b\x7d%|\\".toList.contains c

/-- A text with percent codes for characters that are not allowed. -/
private def quote (allowed : Char → Bool) (s : String) : String :=
  String.ofList (quoteChars allowed s.toList)

/-- The bytes of a text whose percent codes stand for bytes. -/
def unquoted : List Char → List UInt8
  | '%' :: a :: b :: rest =>
    if Text.isHexDigit a && Text.isHexDigit b then
      UInt8.ofNat (Text.hexValue [a, b]) :: unquoted rest
    else 0x25 :: unquoted (a :: b :: rest)
  | c :: rest => (String.singleton c).toUTF8.toList ++ unquoted rest
  | [] => []

/-- The user, the host and the port of an authority. -/
private def splitAuthority (authority : String) : String × String × Option String :=
  let cs := authority.toList
  let afterUser := (cs.reverse.takeWhile (· != '@')).reverse
  let user := if afterUser.length = cs.length then []
    else cs.take (cs.length - afterUser.length - 1)
  let bracketed := (afterUser.reverse.dropWhile (· != ']')).reverse
  let host := if afterUser.head? == some '[' && !bracketed.isEmpty then bracketed
    else afterUser.takeWhile (· != ':')
  let rest := afterUser.drop host.length
  let port := if rest.head? == some ':' then rest.drop 1 else rest
  (String.ofList user, String.ofList host, some (String.ofList port))

/-- The runs of digits of a text in which no other characters stand side by side or at an end. -/
private def digitRuns (cs : List Char) : Option (List Nat) :=
  let runs := (String.ofList (cs.map fun c => if c.isDigit then c else '.')).splitOn "."
  if runs.all (· != "") then some (runs.map String.length) else none

/-- Whether a host looks like four numbers with any one character between them. -/
private def looksLikeFour (cs : List Char) : Bool :=
  match digitRuns cs with
  | none => false
  | some runs =>
    let inside := (runs.map fun n => (n - 1) / 2).foldr (· + ·) 0
    runs.length ≤ 4 && 3 ≤ runs.length - 1 + inside

/-- Whether a text is one of the four numbers of a host. -/
private def isOctet (s : String) : Bool :=
  let cs := s.toList
  !cs.isEmpty && cs.all Char.isDigit && cs.length ≤ 3 && !(1 < cs.length && cs.head? == some '0')
    && Text.digitsValue cs ≤ 255

/-- Whether a host is four numbers with points between them. -/
private def isFourNumbers (s : String) : Bool :=
  let parts := s.splitOn "."
  parts.length == 4 && parts.all isOctet

/-- Whether a text is one of the eight groups of a host. -/
private def isHextet (s : String) : Bool :=
  !s.isEmpty && s.length ≤ 4 && s.toList.all Text.isHexDigit

/-- Whether a host in brackets is eight groups of hexadecimal digits, two colons standing for a
run of zero groups, the last two groups perhaps as four numbers. -/
private def isEightGroups (s : String) : Bool :=
  let (s, zoneOk) := match s.splitOn "%" with
    | [a] => (a, true)
    | [a, zone] => (a, !zone.isEmpty)
    | _ => (s, false)
  let parts := s.splitOn ":"
  let last := parts.getLastD ""
  let (parts, tailOk) :=
    if last.toList.contains '.' then (parts.dropLast ++ ["0", "0"], isFourNumbers last)
    else (parts, true)
  let middle := (parts.drop 1).dropLast
  let gaps := (middle.filter (· == "")).length
  let full := parts.all isHextet && parts.length == 8
  let first := parts.headD ""
  let final := parts.getLastD ""
  let gapAtStart := first != "" || parts[1]? == some ""
  let gapAtEnd := final != "" || (parts.reverse)[1]? == some ""
  let filled := parts.filter (· != "")
  let gapped := gaps == 1 && gapAtStart && gapAtEnd && filled.all isHextet && filled.length < 8
  zoneOk && tailOk && 3 ≤ parts.length && parts.length ≤ 9 && (full || gapped)

/-- The normal form of a host. -/
private def readHost (host : String) : Except Failure String :=
  let cs := host.toList
  if cs.isEmpty then .ok ""
  else if looksLikeFour cs then
    if isFourNumbers host then .ok host
    else .error (.badAddress ("Invalid IPv4 address: " ++ Text.quoted host))
  else if cs.head? == some '[' && cs.getLast? == some ']' then
    let inner := String.ofList ((cs.drop 1).dropLast)
    if isEightGroups inner then .ok inner
    else .error (.badAddress ("Invalid IPv6 address: " ++ Text.quoted host))
  else if cs.all fun c => c.toNat < 128 then .ok (quote hostAllowed (host.map Char.toLower))
  else
    let lower := host.map fun c => Char.ofNat (Text.lowercaseCode c.toNat)
    match HostName.ascii? lower with
    | some name => .ok name
    | none => .error (.badAddress ("Invalid IDNA hostname: " ++ Text.quoted host))

/-- The ports that schemes have by default. -/
private def defaultPorts : List (String × Int) :=
  [("ftp", 21), ("http", 80), ("https", 443), ("ws", 80), ("wss", 443)]

/-- The port of an authority, none when it is empty or the default of the scheme. -/
private def readPort (scheme : String) (port : Option String) : Except Failure (Option Int) :=
  match port with
  | none => .ok none
  | some text =>
    if text.isEmpty then .ok none
    else
      match Text.plainNumber? text with
      | some port => .ok (if defaultPorts.lookup scheme = some port then none else some port)
      | none => .error (.badAddress ("Invalid port: " ++ Text.quoted text))

/-- Refuses a path that would be taken for another part. -/
private def checkPath (path : String) (hasScheme hasAuthority : Bool) : Except Failure Unit := do
  if hasAuthority && !path.isEmpty && !path.startsWith "/" then
    .error (.badAddress "For absolute URLs, path must be empty or begin with '/'")
  if !hasScheme && !hasAuthority then
    if path.startsWith "//" then
      .error (.badAddress "Relative URLs cannot have a path starting with '//'")
    if path.startsWith ":" then
      .error (.badAddress "Relative URLs cannot have a path starting with ':'")

/-- The path without dot segments; two dots take the segment before them away. -/
def resolveDots (path : String) : String :=
  let segments := path.splitOn "/"
  if segments.any fun s => s == "." || s == ".." then
    "/".intercalate <| segments.foldl (fun done s =>
      if s = "." then done
      else if s = ".." then (if done = [] ∨ done = [""] then done else done.dropLast)
      else done ++ [s]) []
  else path

/-- The address of given parts in normal form. -/
def ofParts (p : Parts) : Except Failure Address := do
  let (user, host, port) := splitAuthority p.authority
  let host ← readHost host
  let port ← readPort p.scheme port
  let scheme := p.scheme.map Char.toLower
  let user := quote userAllowed user
  let hasAuthority := !user.isEmpty || !host.isEmpty || port.isSome
  checkPath p.path (!scheme.isEmpty) hasAuthority
  let path := if !scheme.isEmpty || hasAuthority then resolveDots p.path else p.path
  return ⟨scheme, user, host, port, quote pathAllowed path, p.query.map (quote queryAllowed),
    p.fragment.map (quote fragmentAllowed)⟩

/-- The address that a text denotes. -/
def ofText (s : String) : Except Failure Address := do
  checkText none s
  ofParts (split s)

/-- The authority of an address as it is written. -/
def authority (a : Address) : String :=
  (if a.user.isEmpty then "" else a.user ++ "@")
    ++ (if a.host.toList.contains ':' then "[" ++ a.host ++ "]" else a.host)
    ++ (match a.port with | some p => ":" ++ toString p | none => "")

/-- The address as it is written. -/
def toText (a : Address) : String :=
  (if a.scheme.isEmpty then "" else a.scheme ++ ":")
    ++ (if a.authority.isEmpty then "" else "//" ++ a.authority)
    ++ a.path
    ++ (match a.query with | some q => "?" ++ q | none => "")
    ++ (match a.fragment with | some f => "#" ++ f | none => "")

/-- The path, a slash if it is empty, with the query. -/
def target (a : Address) : String :=
  (if a.path.isEmpty then "/" else a.path) ++ (match a.query with | some q => "?" ++ q | none => "")

/-- The address with another path and query. -/
def withTarget (a : Address) (target : String) : Except Failure Address := do
  let path := String.ofList (target.toList.takeWhile (· != '?'))
  let query := if path.length = target.length then none
    else some (String.ofList (target.toList.drop (path.length + 1)))
  checkText (some "path") path
  (query.map (checkText (some "query"))).getD (.ok ())
  ofParts ⟨a.scheme, a.authority, path, query, a.fragment⟩

/-- The base address that a text denotes: what ends in a slash. -/
def base (s : String) : Except Failure Address := do
  let a ← ofText s
  if a.target.endsWith "/" then return a else a.withTarget (a.target ++ "/")

/-- The address of a path below a base, or of a text that is an address of its own. -/
def join (base : Address) (s : String) : Except Failure Address := do
  let a ← ofText s
  if !a.scheme.isEmpty && !a.host.isEmpty then return a
  else base.withTarget (base.target ++ String.ofList (a.target.toList.dropWhile (· == '/')))

end Address

end VoucherDesk
