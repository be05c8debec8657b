import VoucherDesk.Value.Basic
import VoucherDesk.Double.Decimal
import VoucherDesk.Text.Digit

/-!
# Reading JSON

A JSON text denotes one value with optional white space around it. A number with a point
or an exponent is a double, any other is a whole number of at most 4300 digits. The words
`NaN`, `Infinity` and `-Infinity` are read as doubles. A name that a record repeats keeps
its first place and takes its last value. An escape that is half of a surrogate pair alone
reads as the replacement character.
-/

namespace VoucherDesk.Json

/-- The text after leading white space. -/
def skipSpace (cs : List Char) : List Char :=
  cs.dropWhile fun c => c == ' ' || c == '\t' || c == '\n' || c == '\r'

/-- The value of four hexadecimal digits, and what follows them. -/
def hexUnit? : List Char → Option (Nat × List Char)
  | a :: b :: c :: d :: rest => do
    let a ← Text.hexDigit? a
    let b ← Text.hexDigit? b
    let c ← Text.hexDigit? c
    let d ← Text.hexDigit? d
    return (((a * 16 + b) * 16 + c) * 16 + d, rest)
  | _ => none

/-- The character of a code point, the replacement character for half of a surrogate pair. -/
def charOf (code : Nat) : Char :=
  if code.isValidChar then Char.ofNat code else '\uFFFD'

/-- The character that two units of a surrogate pair denote, if they are one. -/
def pairCode? (high low : Nat) : Option Nat :=
  if 0xD800 ≤ high ∧ high < 0xDC00 ∧ 0xDC00 ≤ low ∧ low < 0xE000 then
    some (0x10000 + (high - 0xD800) * 0x400 + (low - 0xDC00))
  else none

/-- The character after a `\u`, which may take a second escape with it. -/
def unicodeEscape? (cs : List Char) : Option (Char × List Char) := do
  let (unit, rest) ← hexUnit? cs
  match rest with
  | '\\' :: 'u' :: after =>
    match hexUnit? after with
    | some (low, rest') =>
      match pairCode? unit low with
      | some code => return (charOf code, rest')
      | none => return (charOf unit, rest)
    | none => return (charOf unit, rest)
  | _ => return (charOf unit, rest)

/-- The character that a one-letter escape denotes. -/
def shortEscape? : Char → Option Char
  | '"' => some '"'
  | '\\' => some '\\'
  | '/' => some '/'
  | 'b' => some '\x08'
  | 'f' => some '\x0c'
  | 'n' => some '\n'
  | 'r' => some '\r'
  | 't' => some '\t'
  | _ => none

/-- The characters of a text up to its closing quote, and what follows the quote. -/
def readText : (fuel : Nat) → (done : List Char) → List Char → Option (String × List Char)
  | 0, _, _ => none
  | _ + 1, _, [] => none
  | fuel + 1, done, c :: rest =>
    if c = '"' then some (String.ofList done.reverse, rest)
    else if c.toNat < 32 then none
    else if c = '\\' then
      match rest with
      | 'u' :: after =>
        match unicodeEscape? after with
        | some (x, rest') => readText fuel (x :: done) rest'
        | none => none
      | e :: after =>
        match shortEscape? e with
        | some x => readText fuel (x :: done) after
        | none => none
      | [] => none
    else readText fuel (c :: done) rest

/-- The fraction of a number, if there is one. -/
def readFraction (cs : List Char) : List Char × List Char :=
  match cs with
  | '.' :: rest =>
    let ds := rest.takeWhile Char.isDigit
    if ds.isEmpty then ([], cs) else (ds, rest.drop ds.length)
  | _ => ([], cs)

/-- The exponent of a number, if there is one. -/
def readExponent (cs : List Char) : Option Int × List Char :=
  match cs with
  | e :: rest =>
    if e = 'e' ∨ e = 'E' then
      let (negative, digits) := match rest with
        | '-' :: ds => (true, ds)
        | '+' :: ds => (false, ds)
        | ds => (false, ds)
      let ds := digits.takeWhile Char.isDigit
      if ds.isEmpty then (none, cs)
      else
        let n : Int := Text.digitsValue ds
        (some (if negative then -n else n), digits.drop ds.length)
    else (none, cs)
  | [] => (none, cs)

/-- A number, and what follows it. -/
def readNumber (cs : List Char) : Option (Value × List Char) :=
  let negative := cs.head? == some '-'
  let body := if negative then cs.drop 1 else cs
  let ds := match body with
    | '0' :: _ => ['0']
    | _ => body.takeWhile Char.isDigit
  if ds.isEmpty then none
  else
    let rest := body.drop ds.length
    let (fraction, rest') := readFraction rest
    let (exponent, rest'') := readExponent rest'
    if fraction.isEmpty && exponent.isNone then
      if ds.length ≤ Text.maxDigits then
        let n : Int := Text.digitsValue ds
        some (.int (if negative then -n else n), rest'')
      else none
    else
      some (.double (.ofDecimal negative (Text.digitsValue (ds ++ fraction))
        (exponent.getD 0 - fraction.length)), rest'')

/-- A word with its value. -/
def words : List (List Char × Value) :=
  [("null".toList, .null), ("true".toList, .bool true), ("false".toList, .bool false),
    ("NaN".toList, .double .nan), ("Infinity".toList, .double (.infinite false)),
    ("-Infinity".toList, .double (.infinite true))]

/-- A value that is neither text, list nor record, and what follows it. -/
def readAtom (cs : List Char) : Option (Value × List Char) :=
  match words.find? fun w => w.1.isPrefixOf cs with
  | some (word, v) => some (v, cs.drop word.length)
  | none => readNumber cs

mutual

/-- A value, and what follows it; white space before it is skipped. -/
def readValue : (fuel : Nat) → List Char → Option (Value × List Char)
  | 0, _ => none
  | fuel + 1, cs =>
    match skipSpace cs with
    | '"' :: rest => (readText (rest.length + 1) [] rest).map fun p => (.text p.1, p.2)
    | '[' :: rest =>
      match skipSpace rest with
      | ']' :: after => some (.list [], after)
      | rest => readItems fuel [] rest
    | '\x7b' :: rest =>
      match skipSpace rest with
      | '\x7d' :: after => some (.record [], after)
      | rest => readMembers fuel [] rest
    | rest => readAtom rest

/-- The items of a list that is not empty, up to its closing bracket. -/
def readItems : (fuel : Nat) → (done : List Value) → List Char → Option (Value × List Char)
  | 0, _, _ => none
  | fuel + 1, done, cs =>
    match readValue fuel cs with
    | none => none
    | some (v, rest) =>
      match skipSpace rest with
      | ',' :: after => readItems fuel (v :: done) after
      | ']' :: after => some (.list (v :: done).reverse, after)
      | _ => none

/-- The named values of a record that is not empty, up to its closing brace. -/
def readMembers : (fuel : Nat) → (done : List (String × Value)) → List Char →
    Option (Value × List Char)
  | 0, _, _ => none
  | fuel + 1, done, cs =>
    match skipSpace cs with
    | '"' :: rest =>
      match readText (rest.length + 1) [] rest with
      | none => none
      | some (name, rest) =>
        match skipSpace rest with
        | ':' :: rest =>
          match readValue fuel rest with
          | none => none
          | some (v, rest) =>
            match skipSpace rest with
            | ',' :: after => readMembers fuel ((name, v) :: done) after
            | '\x7d' :: after => some (.record (Fields.ofPairs ((name, v) :: done).reverse), after)
            | _ => none
        | _ => none
    | _ => none

end

/-- The value that a JSON text denotes, if it denotes one. -/
def ofText? (s : String) : Option Value :=
  let cs := s.toList
  match readValue (2 * cs.length + 2) cs with
  | some (v, rest) => if (skipSpace rest).isEmpty then some v else none
  | none => none

end VoucherDesk.Json
