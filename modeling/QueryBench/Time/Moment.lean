import QueryBench.Time.Calendar
import QueryBench.Text.Pad

/- Moments on the UTC clock and the texts they are written as. A fraction of a second is written
   with 0, 3, 6 or 9 digits, the fewest that are exact. -/
namespace QueryBench

def nanosPerSecond : Nat := 1000000000

/-- Seconds since 1970-01-01 and the nanoseconds behind them. A leap second is the second before it
with a whole second or more of nanoseconds. -/
structure Moment where
  seconds : Int
  nanos : Nat
  deriving DecidableEq, Repr

namespace Moment

def ofNanos (n : Int) : Moment :=
  ⟨n / nanosPerSecond, (n % nanosPerSecond).toNat⟩

def toNanos (m : Moment) : Int := m.seconds * nanosPerSecond + m.nanos

def date (m : Moment) : Date := Date.ofEpochDay (m.seconds / 86400)

/-- Years outside of four digits carry a sign. -/
def yearText (year : Int) : String :=
  if 0 ≤ year ∧ year ≤ 9999 then Text.digits 4 year.toNat
  else (if year < 0 then "-" else "+") ++ Text.digits 4 year.natAbs

def dateText (m : Moment) : String :=
  yearText m.date.year ++ "-" ++ Text.digits 2 m.date.month ++ "-" ++ Text.digits 2 m.date.day

def clockText (m : Moment) : String :=
  let second := (m.seconds % 86400).toNat
  Text.digits 2 (second / 3600) ++ ":" ++ Text.digits 2 (second / 60 % 60) ++ ":" ++
    Text.digits 2 (second % 60 + m.nanos / nanosPerSecond)

def fractionText (m : Moment) : String :=
  let n := m.nanos % nanosPerSecond
  if n = 0 then ""
  else if n % 1000000 = 0 then "." ++ Text.digits 3 (n / 1000000)
  else if n % 1000 = 0 then "." ++ Text.digits 6 (n / 1000)
  else "." ++ Text.digits 9 n

/-- The date, `between`, the time of day and `after`. -/
def render (between after : String) (m : Moment) : String :=
  m.dateText ++ between ++ m.clockText ++ m.fractionText ++ after

/-- RFC 3339 with the short name of the zone, such as `2016-01-01T00:00:00Z`. -/
def toText (m : Moment) : String := m.render "T" "Z"

/-- RFC 3339 with the offset of the zone. -/
def toOffsetText (m : Moment) : String := m.render "T" "+00:00"

/-- The form that SQL statements take, such as `2016-01-01 00:00:00 +0000`. -/
def toSqlText (m : Moment) : String := m.render " " " +0000"

end Moment

end QueryBench
