/- The Gregorian calendar, extended to all years in both directions. Days count from 1970-01-01.
   Years are cut into eras of 400, and within an era they begin in March, so that the leap day is
   the last day of its year. -/
namespace QueryBench

structure Date where
  year : Int
  month : Nat
  day : Nat
  deriving DecidableEq, Repr

namespace Date

/-- Days from the first day of the eras, 0000-03-01, to 1970-01-01. -/
def epochShift : Int := 719468

def eraDays : Int := 146097

/-- The date that is `n` days after 1970-01-01. -/
def ofEpochDay (n : Int) : Date :=
  let shifted := n + epochShift
  let era := shifted / eraDays
  let dayOfEra := (shifted % eraDays).toNat
  let yearOfEra := (dayOfEra - dayOfEra / 1460 + dayOfEra / 36524 - dayOfEra / 146096) / 365
  let dayOfYear := dayOfEra - (365 * yearOfEra + yearOfEra / 4 - yearOfEra / 100)
  let march := (5 * dayOfYear + 2) / 153
  let month := if march < 10 then march + 3 else march - 9
  let year := era * 400 + yearOfEra + if month ≤ 2 then 1 else 0
  ⟨year, month, dayOfYear - (153 * march + 2) / 5 + 1⟩

def toEpochDay (d : Date) : Int :=
  let year := d.year - if d.month ≤ 2 then 1 else 0
  let era := year / 400
  let yearOfEra := (year % 400).toNat
  let march := if d.month ≤ 2 then d.month + 9 else d.month - 3
  let dayOfYear := (153 * march + 2) / 5 + d.day - 1
  let dayOfEra := yearOfEra * 365 + yearOfEra / 4 - yearOfEra / 100 + dayOfYear
  era * eraDays + dayOfEra - epochShift

def leapYear (year : Int) : Bool := year % 4 = 0 ∧ (year % 100 ≠ 0 ∨ year % 400 = 0)

/-- The length of a month; there are twelve of them. -/
def monthDays (year : Int) : Nat → Nat
  | 2 => if leapYear year then 29 else 28
  | 4 | 6 | 9 | 11 => 30
  | 1 | 3 | 5 | 7 | 8 | 10 | 12 => 31
  | _ => 0

def Valid (d : Date) : Prop := 1 ≤ d.day ∧ d.day ≤ monthDays d.year d.month

instance (d : Date) : Decidable d.Valid := inferInstanceAs (Decidable (_ ∧ _))

end Date

end QueryBench
