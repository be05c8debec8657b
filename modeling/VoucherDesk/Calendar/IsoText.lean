import VoucherDesk.Calendar.Moment
import VoucherDesk.Text.Digit

/-!
# ISO 8601 text of moments

Moments are written as `2026-12-31T23:59:59.5+02:00` with six digits of fraction when
there is one. Reading is wider: calendar or week dates, with or without hyphens, any one
character between date and time, a time of day down to the hour, a point or a comma before
the fraction, digits beyond the sixth dropped, and `Z` or a signed offset at the end.
-/

namespace VoucherDesk

/-- A number with at least `width` decimal digits. -/
def padded (width n : Nat) : String :=
  let ds := Nat.toDigits 10 n
  String.ofList (List.replicate (width - ds.length) '0' ++ ds)

namespace Moment

/-- A time of day: hours and minutes, then seconds, then six digits of fraction if any. -/
private def clockText (c : Clock) : String :=
  padded 2 c.hour ++ ":" ++ padded 2 c.minute ++ ":" ++ padded 2 c.second ++
    (if c.micro = 0 then "" else "." ++ padded 6 c.micro)

/-- An offset: sign, hours and minutes, then seconds and fraction where they are not zero. -/
private def offsetText (o : Offset) : String :=
  let total := o.micros.natAbs
  let seconds := total / 1000000
  let micro := total % 1000000
  (if o.micros < 0 then "-" else "+") ++ padded 2 (seconds / 3600) ++ ":"
    ++ padded 2 (seconds / 60 % 60)
    ++ (if seconds % 60 = 0 ∧ micro = 0 then "" else ":" ++ padded 2 (seconds % 60))
    ++ (if micro = 0 then "" else "." ++ padded 6 micro)

/-- The moment in ISO 8601 with the given text between date and time. -/
def isoText (t : Moment) (between : String) : String :=
  padded 4 t.date.year ++ "-" ++ padded 2 t.date.month ++ "-" ++ padded 2 t.date.day ++ between
    ++ clockText t.clock ++ (t.offset.map offsetText).getD ""

/-- The value of a run of decimal digits of exactly this length, and what follows it. -/
private def takeDigits (count : Nat) (cs : List Char) : Option (Nat × List Char) :=
  let ds := cs.take count
  if ds.length = count ∧ ds.all Char.isDigit then
    some (Text.digitsValue ds, cs.drop count)
  else none

/-- Where the date ends, from its length and from the characters that tell the formats apart. -/
private def dateLength (cs : List Char) : Option Nat :=
  let length := cs.length
  let hyphenAt (i : Nat) : Bool := cs[i]? == some '-'
  if length = 7 then some 7
  else if hyphenAt 4 then
    if cs[5]? == some 'W' then
      if hyphenAt 8 then
        if length = 9 then none
        else if 10 < length && (cs[10]?.any Char.isDigit) then some 8
        else some 10
      else some 8
    else some 10
  else if cs[4]? == some 'W' then
    let stop := 7 + ((cs.drop 7).takeWhile Char.isDigit).length
    if stop < 9 then some stop
    else if stop % 2 = 0 then some 7
    else some 8
  else some 8

/-- A calendar date or a week date, all of it or nothing. -/
private def readDate (cs : List Char) : Option Date := do
  let (year, rest) ← takeDigits 4 cs
  let hyphens := rest.head? == some '-'
  let rest := if hyphens then rest.drop 1 else rest
  let pastHyphen (cs : List Char) : Option (List Char) :=
    if !hyphens then some cs else if cs.head? == some '-' then some (cs.drop 1) else none
  if rest.head? == some 'W' then
    let (week, rest) ← takeDigits 2 (rest.drop 1)
    if rest.isEmpty then Date.ofWeek? year week 1
    else
      let rest ← pastHyphen rest
      let (day, _) ← takeDigits 1 rest
      Date.ofWeek? year week day
  else
    let (month, rest) ← takeDigits 2 rest
    let rest ← pastHyphen rest
    let (day, _) ← takeDigits 2 rest
    Date.ofParts? year month day

/-- Hours, minutes, seconds and microseconds as read, not yet checked against their bounds. -/
private structure RawClock where
  hour : Nat := 0
  minute : Nat := 0
  second : Nat := 0
  micro : Nat := 0

/-- What reading a time of day leaves: nothing, or text that only an offset may follow. -/
private structure ClockReading where
  clock : RawClock
  clean : Bool

/-- The fraction: up to six digits count, further digits are dropped. -/
private def readFraction (raw : RawClock) (cs : List Char) (more : Bool) : Option ClockReading := do
  let count := min 6 cs.length
  let (n, rest) ← takeDigits count cs
  return ⟨{ raw with micro := n * Nat.pow 10 (6 - count) },
    (rest.dropWhile Char.isDigit).isEmpty && !more⟩

/-- Sets the field of a time of day at a place. -/
private def setField (raw : RawClock) : (field value : Nat) → RawClock
  | 0, v => { raw with hour := v }
  | 1, v => { raw with minute := v }
  | _, v => { raw with second := v }

/-- The fields of a time of day from the `field`-th on; the first separator says whether the
fields are separated by colons. -/
private def readFields (more : Bool) :
    (left field : Nat) → (colons : Bool) → RawClock → List Char → Option ClockReading
  | 0, _, _, raw, cs => readFraction raw cs more
  | left + 1, field, colons, raw, cs => do
    let (value, rest) ← takeDigits 2 cs
    let raw := setField raw field value
    match rest with
    | [] => return ⟨raw, !more⟩
    | c :: after =>
      let colons := if field = 0 then c == ':' else colons
      if after.isEmpty then return ⟨raw, false⟩
      else if colons && c == ':' then readFields more left (field + 1) colons raw after
      else if c == '.' || c == ',' then readFraction raw after more
      else if !colons then readFields more left (field + 1) colons raw (c :: after)
      else none

/-- Whether a character begins an offset. -/
private def isZoneMark (c : Char) : Bool := c == '+' || c == '-' || c == 'Z'

/-- An offset after its sign; one without whole seconds is universal time. -/
private def readOffset (negative : Bool) (cs : List Char) : Option Offset := do
  let ⟨raw, clean⟩ ← readFields false 3 0 true {} cs
  guard clean
  let seconds := raw.hour * 3600 + raw.minute * 60 + raw.second
  if seconds = 0 then return .universal
  let micros : Int := seconds * 1000000 + raw.micro
  Offset.ofMicros? (if negative then -micros else micros)

/-- A time of day with an offset if there is one. -/
private def readTime (cs : List Char) : Option (Clock × Option Offset) := do
  let zone := cs.dropWhile (fun c => !isZoneMark c)
  let ⟨raw, clean⟩ ← readFields (!zone.isEmpty) 3 0 true {} (cs.takeWhile fun c => !isZoneMark c)
  let offset ← match zone with
    | [] => if clean then some none else none
    | 'Z' :: rest => if rest.isEmpty then some (some Offset.universal) else none
    | sign :: rest => (readOffset (sign == '-') rest).map some
  let clock ← Clock.ofParts? raw.hour raw.minute raw.second raw.micro
  return (clock, offset)

/-- The characters of a text, each as often as its UTF-8 form has bytes: places and lengths in a
text count bytes. -/
private def widened (cs : List Char) : List Char :=
  cs.flatMap fun c => List.replicate c.utf8Size c

/-- The moment that an ISO 8601 text denotes, if it denotes one. -/
def ofIsoText? (s : String) : Option Moment := do
  let cs := widened s.toList
  guard (7 ≤ cs.length)
  let length ← dateLength cs
  let date ← readDate (cs.take length)
  match cs.drop length with
  | [] => return ⟨date, .midnight, none⟩
  | between :: rest =>
    let (clock, offset) ← readTime (rest.drop (between.utf8Size - 1))
    return ⟨date, clock, offset⟩

end Moment

end VoucherDesk
