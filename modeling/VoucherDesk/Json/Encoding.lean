import VoucherDesk.Json.Reader

/-!
# The encoding of JSON bytes

The bytes of a JSON text are in UTF-8, UTF-16 or UTF-32. A byte order mark tells which,
and without one the zero bytes among the first four do, since a JSON text begins with an
ASCII character. Half of a surrogate pair alone is let through in every encoding and reads
as the replacement character.
-/

namespace VoucherDesk.Json

/-- The encodings of a JSON text. -/
inductive Encoding where
  | utf8
  | utf16 (bigEndian : Bool)
  | utf32 (bigEndian : Bool)
  deriving DecidableEq, Repr

/-- The encoding of the bytes, and the bytes without a byte order mark. -/
def encodingOf (bytes : List UInt8) : Encoding × List UInt8 :=
  if [0, 0, 0xFE, 0xFF].isPrefixOf bytes then (.utf32 true, bytes.drop 4)
  else if [0xFF, 0xFE, 0, 0].isPrefixOf bytes then (.utf32 false, bytes.drop 4)
  else if [0xFE, 0xFF].isPrefixOf bytes then (.utf16 true, bytes.drop 2)
  else if [0xFF, 0xFE].isPrefixOf bytes then (.utf16 false, bytes.drop 2)
  else if [0xEF, 0xBB, 0xBF].isPrefixOf bytes then (.utf8, bytes.drop 3)
  else match bytes with
    | a :: b :: c :: d :: _ =>
      if a = 0 then (if b = 0 then .utf32 true else .utf16 true, bytes)
      else if b = 0 then (if c = 0 ∧ d = 0 then .utf32 false else .utf16 false, bytes)
      else (.utf8, bytes)
    | [a, b] =>
      if a = 0 then (.utf16 true, bytes)
      else if b = 0 then (.utf16 false, bytes)
      else (.utf8, bytes)
    | _ => (.utf8, bytes)

/-- The low six bits of a continuation byte. -/
private def continuation? (b : UInt8) : Option Nat :=
  if 0x80 ≤ b ∧ b < 0xC0 then some (b.toNat - 0x80) else none

/-- The code points of UTF-8 bytes; overlong and out-of-range forms are refused. -/
def utf8Codes : (fuel : Nat) → (done : List Nat) → List UInt8 → Option (List Nat)
  | _, done, [] => some done.reverse
  | 0, _, _ => none
  | fuel + 1, done, b :: rest =>
    if b < 0x80 then utf8Codes fuel (b.toNat :: done) rest
    else if 0xC2 ≤ b ∧ b < 0xE0 then
      match rest with
      | c :: rest => do
        let c ← continuation? c
        utf8Codes fuel (((b.toNat - 0xC0) * 64 + c) :: done) rest
      | _ => none
    else if 0xE0 ≤ b ∧ b < 0xF0 then
      match rest with
      | c :: d :: rest => do
        let c ← continuation? c
        let d ← continuation? d
        let code := (b.toNat - 0xE0) * 4096 + c * 64 + d
        if code < 0x800 then none else utf8Codes fuel (code :: done) rest
      | _ => none
    else if 0xF0 ≤ b ∧ b < 0xF5 then
      match rest with
      | c :: d :: e :: rest => do
        let c ← continuation? c
        let d ← continuation? d
        let e ← continuation? e
        let code := (b.toNat - 0xF0) * 262144 + c * 4096 + d * 64 + e
        if code < 0x10000 ∨ 0x10FFFF < code then none else utf8Codes fuel (code :: done) rest
      | _ => none
    else none

/-- The code points of 16-bit units; two halves of a surrogate pair make one. -/
private def joinPairs : List Nat → List Nat
  | high :: low :: rest =>
    match pairCode? high low with
    | some code => code :: joinPairs rest
    | none => high :: joinPairs (low :: rest)
  | units => units

/-- The 16-bit units of bytes, if there is an even number of bytes. -/
private def units16 (bigEndian : Bool) : List UInt8 → Option (List Nat)
  | [] => some []
  | a :: b :: rest =>
    let unit := if bigEndian then a.toNat * 256 + b.toNat else b.toNat * 256 + a.toNat
    (units16 bigEndian rest).map (unit :: ·)
  | _ => none

/-- The 32-bit code points of bytes, if there is a whole number of them in range. -/
private def units32 (bigEndian : Bool) : List UInt8 → Option (List Nat)
  | [] => some []
  | a :: b :: c :: d :: rest =>
    let (a, b, c, d) := if bigEndian then (a, b, c, d) else (d, c, b, a)
    let code := ((a.toNat * 256 + b.toNat) * 256 + c.toNat) * 256 + d.toNat
    if 0x10FFFF < code then none else (units32 bigEndian rest).map (code :: ·)
  | _ => none

/-- The text that bytes hold in an encoding. -/
def decode (encoding : Encoding) (bytes : List UInt8) : Option String :=
  let codes := match encoding with
    | .utf8 => utf8Codes bytes.length [] bytes
    | .utf16 bigEndian => (units16 bigEndian bytes).map joinPairs
    | .utf32 bigEndian => units32 bigEndian bytes
  codes.map fun cs => String.ofList (cs.map charOf)

/-- The value that the bytes of a JSON text denote, if they denote one. -/
def ofBytes? (bytes : List UInt8) : Option Value :=
  let (encoding, rest) := encodingOf bytes
  (decode encoding rest).bind ofText?

end VoucherDesk.Json
