import VoucherDesk.Calendar.Moment
import VoucherDesk.Double.Basic

/-!
# Timestamps

The timestamp of a moment is the whole number of seconds since the epoch, taken as the
floor of a double. With an offset that double is the exact count of microseconds divided
by a million and rounded once. Without one it is the rounded sum of the whole seconds and
of the rounded fraction; such a moment on the first day of the calendar has none, because
the day before it is consulted.
-/

namespace VoucherDesk.Moment

/-- Seconds since the epoch as a double, for moments that have one. -/
def epochDouble? (t : Moment) : Option Double :=
  match t.offset with
  | some _ => Double.ofQuotient? t.epochMicros 1000000
  | none =>
    if t.date.ordinal = 1 then none
    else do
      let whole ← Double.ofInt? t.localSeconds
      let part ← Double.ofQuotient? t.clock.micro 1000000
      return whole.add part

/-- The timestamp: the floor of the seconds since the epoch. -/
def timestamp? (t : Moment) : Option Int :=
  t.epochDouble?.bind Double.floor?

end VoucherDesk.Moment
