import QueryBench.Text.Blank
import QueryBench.Time.Moment

/- Lengths of time, to the nanosecond, and the way they are written and read: whole counts of units
   from years down to nanoseconds, the greatest unit first. -/
namespace QueryBench

structure Duration where
  nanos : Nat
  deriving DecidableEq, Repr

namespace Duration

def ofSeconds (n : Nat) : Duration := ⟨n * nanosPerSecond⟩

def ofHours (n : Nat) : Duration := ofSeconds (n * 3600)

/-- A unit of time: its name, whether the name takes a plural, and its length in nanoseconds. -/
structure Part where
  name : String
  plural : Bool
  nanos : Nat
  deriving DecidableEq, Repr

/-- The units of the written form. A year has 365.25 days and a month a twelfth of that. -/
def parts : List Part :=
  [⟨"year", true, 31557600000000000⟩, ⟨"month", true, 2630016000000000⟩,
    ⟨"day", true, 86400000000000⟩, ⟨"h", false, 3600000000000⟩, ⟨"m", false, 60000000000⟩,
    ⟨"s", false, 1000000000⟩, ⟨"ms", false, 1000000⟩, ⟨"us", false, 1000⟩, ⟨"ns", false, 1⟩]

def Part.text (p : Part) (count : Nat) : String :=
  toString count ++ p.name ++ if p.plural ∧ 1 < count then "s" else ""

/-- The counts that are not zero, each in its unit. -/
def words : List Part → Nat → List String
  | [], _ => []
  | p :: ps, n =>
      if n / p.nanos = 0 then words ps n else p.text (n / p.nanos) :: words ps (n % p.nanos)

def toText (d : Duration) : String :=
  if d.nanos = 0 then "0s" else String.intercalate " " (words parts d.nanos)

def unitNanos? (name : String) : Option Nat :=
  if name ∈ ["nanos", "nsec", "ns"] then some 1
  else if name ∈ ["usec", "us"] then some 1000
  else if name ∈ ["millis", "msec", "ms"] then some 1000000
  else if name ∈ ["seconds", "second", "secs", "sec", "s"] then some nanosPerSecond
  else if name ∈ ["minutes", "minute", "min", "mins", "m"] then some (60 * nanosPerSecond)
  else if name ∈ ["hours", "hour", "hr", "hrs", "h"] then some (3600 * nanosPerSecond)
  else if name ∈ ["days", "day", "d"] then some (86400 * nanosPerSecond)
  else if name ∈ ["weeks", "week", "wk", "wks", "w"] then some (604800 * nanosPerSecond)
  else if name ∈ ["months", "month", "M"] then some (2630016 * nanosPerSecond)
  else if name ∈ ["years", "year", "yr", "yrs", "y"] then some (31557600 * nanosPerSecond)
  else none

/-- Where a reader of durations stands: before a count, inside one, or inside the name of its unit.
-/
inductive Reading where
  | gap
  | count (n : Nat)
  | unit (n : Nat) (name : List Char)
  deriving DecidableEq, Repr

/-- Reads `1h 30m`, `1h30m` or `90 min`; blanks inside a count are skipped, a name ends at a blank
or at the next count. -/
def read : Reading → Nat → List Char → Option Nat
  | .gap, total, [] => some total
  | .count _, _, [] => none
  | .unit n name, total, [] => (unitNanos? (String.ofList name)).map (total + n * ·)
  | .gap, total, c :: rest =>
      if c.isDigit then read (.count (c.toNat - '0'.toNat)) total rest
      else if Text.isBlank c then read .gap total rest
      else none
  | .count n, total, c :: rest =>
      if c.isDigit then
        let n := n * 10 + (c.toNat - '0'.toNat)
        if n < UInt64.size then read (.count n) total rest else none
      else if Text.isBlank c then read (.count n) total rest
      else if c.isAlpha then read (.unit n [c]) total rest
      else none
  | .unit n name, total, c :: rest =>
      if c.isAlpha then read (.unit n (name ++ [c])) total rest
      else
        match unitNanos? (String.ofList name) with
        | none => none
        | some size =>
            if c.isDigit then read (.count (c.toNat - '0'.toNat)) (total + n * size) rest
            else if Text.isBlank c then read .gap (total + n * size) rest
            else none

/-- The duration that a text names; a lone zero needs no unit, and an empty text names none. -/
def ofText? (s : String) : Option Duration :=
  if s = "0" then some ⟨0⟩
  else if s.toList.all Text.isBlank then none
  else (read .gap 0 s.toList).filter (· < UInt64.size * nanosPerSecond) |>.map Duration.mk

end Duration

end QueryBench
