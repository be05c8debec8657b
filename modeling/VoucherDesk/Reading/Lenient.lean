import VoucherDesk.Failure
import VoucherDesk.Text.Blank
import VoucherDesk.Text.Digit

/-!
# Lenient reading of values

Fields of replies, options and settings are read leniently: a whole number may come as a
truth value, as a double with a whole value, or as a numeral in a text; a truth value may
come as a number or as one of twelve words; a text must be a text. What cannot be read
gives the mismatch that explains it. A record is read field by field, and all problems
are collected in the order of the fields.
-/

namespace VoucherDesk.Reading

/-- What a strict numeral denotes, or why it is none. -/
inductive Numeral where
  | value (n : Int)
  | tooLong
  | malformed

/-- Strict numerals: an optional minus and digits without leading zeros. -/
def strictNumeral (cs : List Char) : Numeral :=
  let negative := cs.head? == some '-'
  let body := if negative then cs.drop 1 else cs
  let ds := body.takeWhile Char.isDigit
  if ds.isEmpty then .malformed
  else if Text.maxDigits < ds.length then .tooLong
  else if ds.length < body.length ∨ (ds.head? = some '0' ∧ 1 < ds.length) then .malformed
  else
    let n : Int := Text.digitsValue ds
    .value (if negative then -n else n)

/-- The rest after leading zeros, with underscores among them; one zero stays before a point
and the last character stays when nothing else does. -/
def dropLeadingZeros : List Char → Option (List Char)
  | [] => none
  | c :: rest =>
    if c = '0' then go c rest
    else if ('1' ≤ c ∧ c ≤ '9') ∨ c = '-' then some (c :: rest)
    else none
where
  /-- The rest after the zero or underscore `last`. -/
  go (last : Char) : List Char → Option (List Char)
    | [] => some [last]
    | c :: rest =>
      if c = '0' ∨ c = '_' then go c rest
      else if '1' ≤ c ∧ c ≤ '9' then some (c :: rest)
      else if c = '.' then some (last :: c :: rest)
      else none

/-- The part before a point that only zeros follow, at least one. -/
def dropZeroFraction (cs : List Char) : List Char :=
  let whole := cs.takeWhile (· != '.')
  let fraction := (cs.drop whole.length).drop 1
  if !fraction.isEmpty && fraction.all (· == '0') then whole else cs

/-- Whether two underscores stand side by side. -/
def hasDoubleUnderscore : List Char → Bool
  | a :: b :: rest => (a == '_' && b == '_') || hasDoubleUnderscore (b :: rest)
  | _ => false

/-- The text without its underscores, if each stands between two other characters. -/
def dropUnderscores? (cs : List Char) : Option (List Char) :=
  if cs.contains '_' && cs.head? != some '_' && cs.getLast? != some '_'
      && !hasDoubleUnderscore cs then
    some (cs.filter (· != '_'))
  else none

/-- A numeral with the liberties of a lenient text taken out, if it has any chance. -/
def cleanNumeral (cs : List Char) : Option (List Char) := do
  let cs := Text.trimBoth (fun c => Text.isSpaceCode c.toNat) cs
  let unsigned ← match cs with
    | '+' :: '-' :: _ => none
    | '+' :: rest => some rest
    | rest => some rest
  let negative := unsigned.head? == some '-'
  let body ← dropLeadingZeros (if negative then unsigned.drop 1 else unsigned)
  let body := dropZeroFraction body
  let body := (dropUnderscores? body).getD body
  return if negative then '-' :: body else body

/-- The whole number that a text denotes leniently. -/
def intOfText (s : String) : Except Mismatch Int :=
  match strictNumeral s.toList with
  | .value n => .ok n
  | .tooLong => .error .intParsingSize
  | .malformed =>
    match (cleanNumeral s.toList).map strictNumeral with
    | some (.value n) => .ok n
    | some .tooLong => .error .intParsingSize
    | _ => .error .intParsing

/-- The bound of the magnitudes of 64-bit words with a sign. -/
def wordBound : Int := 9223372036854775808

/-- The whole number that a double equals, inside the range of 64-bit words. -/
def intOfDouble (x : Double) : Except Mismatch Int :=
  if !x.isFinite then .error .finiteNumber
  else match x.toInt? with
    | none => .error .intFromFloat
    | some n => if -wordBound < n ∧ n < wordBound then .ok n else .error .intParsingSize

/-- Reads a whole number. -/
def int : Value → Except Mismatch Int
  | .bool b => .ok (if b then 1 else 0)
  | .int n => .ok n
  | .double x => intOfDouble x
  | .text s => intOfText s
  | _ => .error .intType

/-- A whole number that is null or absent may be missing. -/
def intOrNull : Value → Except Mismatch (Option Int)
  | .null => .ok none
  | v => (int v).map some

/-- The words for true and for false, in lower case. -/
def boolWords : List (String × Bool) :=
  [("0", false), ("off", false), ("f", false), ("false", false), ("n", false), ("no", false),
    ("1", true), ("on", true), ("t", true), ("true", true), ("y", true), ("yes", true)]

/-- The truth value of a number that is zero or one. -/
def boolOfInt (n : Int) : Except Mismatch Bool :=
  if n = 0 then .ok false else if n = 1 then .ok true else .error .boolParsing

/-- Reads a truth value; words match in any case but with nothing around them. -/
def bool : Value → Except Mismatch Bool
  | .bool b => .ok b
  | .int n => boolOfInt n
  | .double x =>
    match intOfDouble x with
    | .ok n => boolOfInt n
    | .error _ => .error .boolType
  | .text s =>
    match boolWords.lookup (s.map Char.toLower) with
    | some b => .ok b
    | none => .error .boolParsing
  | _ => .error .boolType

/-- Reads a text. -/
def text : Value → Except Mismatch String
  | .text s => .ok s
  | _ => .error .stringType

/-- A text that may be null. -/
def textOrNull : Value → Except Mismatch (Option String)
  | .null => .ok none
  | v => (text v).map some

/-- The double of a plain numeral: sign, digits with an optional point, optional exponent, or a
word for infinity or for no number. -/
def doubleOfNumeral (cs : List Char) : Option Double :=
  let negative := cs.head? == some '-'
  let body := if cs.head? == some '-' || cs.head? == some '+' then cs.drop 1 else cs
  let word := String.ofList (body.map Char.toLower)
  if word = "inf" ∨ word = "infinity" then some (.infinite negative)
  else if word = "nan" then some .nan
  else
    let whole := body.takeWhile Char.isDigit
    let rest := body.drop whole.length
    let (fraction, rest) := match rest with
      | '.' :: after =>
        let ds := after.takeWhile Char.isDigit
        (ds, after.drop ds.length)
      | rest => ([], rest)
    let digits := whole ++ fraction
    let mantissa := Text.digitsValue digits
    if digits.isEmpty then none
    else match rest with
      | [] => some (.ofDecimal negative mantissa (-(fraction.length : Int)))
      | e :: after =>
        if e ≠ 'e' ∧ e ≠ 'E' then none
        else
          let minus := after.head? == some '-'
          let ds := if minus || after.head? == some '+' then after.drop 1 else after
          if ds.isEmpty || !ds.all Char.isDigit then none
          else
            let n : Int := Text.digitsValue ds
            some (.ofDecimal negative mantissa ((if minus then -n else n) - fraction.length))

/-- Reads a double from a text: white space around it, or underscores between its digits. -/
def doubleOfText (s : String) : Except Mismatch Double :=
  let trimmed := Text.trimBoth (fun c => Text.isSpaceCode c.toNat) s.toList
  match doubleOfNumeral trimmed with
  | some x => .ok x
  | none =>
    match (dropUnderscores? s.toList).bind doubleOfNumeral with
    | some x => .ok x
    | none => .error .floatParsing

/-- A reading that collects all its problems. -/
abbrev Checked (α : Type) := Except (List Problem) α

/-- One mismatch at the place of a field. -/
def located (field : String) : Except Mismatch α → Checked α
  | .ok a => .ok a
  | .error m => .error [⟨[field], m⟩]

/-- Two readings side by side; the problems of the first come first. -/
def both : Checked α → Checked β → Checked (α × β)
  | .ok a, .ok b => .ok (a, b)
  | .ok _, .error ps => .error ps
  | .error ps, .ok _ => .error ps
  | .error ps, .error qs => .error (ps ++ qs)

/-- A field that has a default when it is absent. -/
def field (fields : Fields) (name : String) (default : α) (read : Value → Except Mismatch α) :
    Checked α :=
  match fields.get? name with
  | some v => located name (read v)
  | none => .ok default

/-- A field that has to be there. -/
def required (fields : Fields) (name : String) (read : Value → Except Mismatch α) : Checked α :=
  match fields.get? name with
  | some v => located name (read v)
  | none => .error [⟨[name], .missing⟩]

/-- The named values of a record; any other value has the wrong type as a whole. -/
def fieldsOf : Value → Checked Fields
  | .record fields => .ok fields
  | _ => .error [⟨[], .modelType⟩]

end VoucherDesk.Reading
