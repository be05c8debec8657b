/-!
# Calendar moments

A moment is a date of the proleptic Gregorian calendar in the years 1 to 9999, a time of
day to the microsecond and, when it is known, an offset from universal time of less than
one day. Days are counted from the first of January of year 1, which is day 1.
-/

namespace VoucherDesk

/-- Every fourth year is a leap year, but of the full centuries only every fourth. -/
def isLeapYear (year : Nat) : Bool :=
  year % 4 == 0 && (year % 100 != 0 || year % 400 == 0)

/-- The number of days of a month. -/
def daysInMonth (year month : Nat) : Nat :=
  if month = 2 then (if isLeapYear year then 29 else 28)
  else if month = 4 ∨ month = 6 ∨ month = 9 ∨ month = 11 then 30
  else 31

/-- Days of all years before this one. -/
def daysBeforeYear (year : Nat) : Nat :=
  let y := year - 1
  y * 365 + y / 4 - y / 100 + y / 400

/-- Days of all months of the year before this one. -/
def daysBeforeMonth (year month : Nat) : Nat :=
  ((List.range (month - 1)).map fun m => daysInMonth year (m + 1)).foldr (· + ·) 0

/-- The bounds of a calendar date. -/
def IsDate (year month day : Nat) : Prop :=
  1 ≤ year ∧ year ≤ 9999 ∧ 1 ≤ month ∧ month ≤ 12 ∧ 1 ≤ day ∧ day ≤ daysInMonth year month

instance (year month day : Nat) : Decidable (IsDate year month day) :=
  inferInstanceAs (Decidable (_ ∧ _))

/-- A calendar date of the years 1 to 9999. -/
structure Date where
  year : Nat
  month : Nat
  day : Nat
  isDate : IsDate year month day
  deriving DecidableEq

/-- A time of day to the microsecond. -/
structure Clock where
  hour : Nat
  minute : Nat
  second : Nat
  micro : Nat
  isClock : hour < 24 ∧ minute < 60 ∧ second < 60 ∧ micro < 1000000
  deriving DecidableEq

/-- An offset east of universal time in microseconds, less than one day either way. -/
structure Offset where
  micros : Int
  isOffset : -86400000000 < micros ∧ micros < 86400000000
  deriving DecidableEq

/-- A calendar moment; without an offset it is read as universal time. -/
structure Moment where
  date : Date
  clock : Clock
  offset : Option Offset
  deriving DecidableEq

namespace Date

/-- The number of the day, the first of January of year 1 being day 1. -/
def ordinal (d : Date) : Nat :=
  daysBeforeYear d.year + daysBeforeMonth d.year d.month + d.day

/-- The date with these parts, if there is one. -/
def ofParts? (year month day : Nat) : Option Date :=
  if h : IsDate year month day then some ⟨year, month, day, h⟩ else none

/-- The month and day of the day of the year counted from zero. -/
def monthDay (year : Nat) : (months month rest : Nat) → Nat × Nat
  | 0, month, rest => (month, rest + 1)
  | months + 1, month, rest =>
    if rest < daysInMonth year month then (month, rest + 1)
    else monthDay year months (month + 1) (rest - daysInMonth year month)

/-- The year of a day number and the day of that year counted from zero. -/
def yearDay (ordinal : Nat) : Nat × Nat :=
  let n := ordinal - 1
  let guess := n / 366 + 1
  let year := (List.range 30).foldl
    (fun year _ => if daysBeforeYear (year + 1) ≤ n then year + 1 else year) guess
  (year, n - daysBeforeYear year)

/-- The date of a day number, if it lies in the years 1 to 9999. -/
def ofOrdinal? (ordinal : Nat) : Option Date :=
  if ordinal = 0 then none else
    let (year, rest) := yearDay ordinal
    let (month, day) := monthDay year 11 1 rest
    ofParts? year month day

/-- The day of the week, Monday being zero. -/
def weekday (ordinal : Nat) : Nat := (ordinal + 6) % 7

/-- The Monday of the first week of a year: the week that holds its fourth of January. -/
def firstMonday (year : Nat) : Int :=
  let first : Int := daysBeforeYear year + 1
  let day : Int := (first + 6) % 7
  if 3 < day then first - day + 7 else first - day

/-- Whether the year has 53 weeks: it begins on a Thursday, or on a Wednesday and is a leap year. -/
def hasLongYear (year : Nat) : Bool :=
  let day := weekday (daysBeforeYear year + 1)
  day == 3 || (day == 2 && isLeapYear year)

/-- The date of a day of a numbered week, if there is one. -/
def ofWeek? (year week day : Nat) : Option Date :=
  if year = 0 ∨ week = 0 ∨ 53 < week ∨ (week = 53 ∧ hasLongYear year = false)
      ∨ day = 0 ∨ 7 < day then
    none
  else
    let n := firstMonday year + ((week - 1) * 7 + (day - 1) : Nat)
    if n < 1 then none else ofOrdinal? n.toNat

end Date

namespace Clock

/-- The time of day with these parts, if there is one. -/
def ofParts? (hour minute second micro : Nat) : Option Clock :=
  if h : hour < 24 ∧ minute < 60 ∧ second < 60 ∧ micro < 1000000 then
    some ⟨hour, minute, second, micro, h⟩
  else none

/-- The first moment of a day. -/
def midnight : Clock := ⟨0, 0, 0, 0, by decide⟩

/-- Whole seconds since midnight. -/
def seconds (c : Clock) : Nat := c.hour * 3600 + c.minute * 60 + c.second

end Clock

namespace Offset

/-- The offset of so many microseconds, if it is less than one day. -/
def ofMicros? (micros : Int) : Option Offset :=
  if h : -86400000000 < micros ∧ micros < 86400000000 then some ⟨micros, h⟩ else none

/-- Universal time. -/
def universal : Offset := ⟨0, by decide⟩

end Offset

namespace Moment

/-- The day number of the first of January 1970. -/
def epochOrdinal : Nat := 719163

/-- Whole seconds from the epoch to the moment as its date and clock show it. -/
def localSeconds (t : Moment) : Int :=
  ((t.date.ordinal : Int) - epochOrdinal) * 86400 + t.clock.seconds

/-- Microseconds from the epoch to the instant that the moment denotes. -/
def epochMicros (t : Moment) : Int :=
  t.localSeconds * 1000000 + t.clock.micro - (t.offset.map Offset.micros).getD 0

/-- Two moments are equal when they show the same date and clock without offsets, or denote
the same instant with offsets; with one offset only they differ. -/
def same (a b : Moment) : Bool :=
  a.offset.isSome == b.offset.isSome && a.epochMicros == b.epochMicros

end Moment

end VoucherDesk
