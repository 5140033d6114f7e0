import Mathlib.Tactic.IntervalCases
import QueryBench.Time.Calendar

/- The calendar in both directions. A day of an era is so many centuries, leap cycles, years and
   days, of which the last century, cycle and year may be a day longer than the others. So the date
   that is made of a day exists, and the day can be found again. -/
namespace QueryBench.Date

def yearOfEra (d : Nat) : Nat := (d - d / 1460 + d / 36524 - d / 146096) / 365

def daysBefore (y : Nat) : Nat := 365 * y + y / 4 - y / 100

/-- The days before a month, where the months are counted from March. -/
def marchDays (march : Nat) : Nat := (153 * march + 2) / 5

/-- The centuries, leap cycles and years before a day of an era, and the days of its own year. -/
structure Parts (d c q y x : Nat) : Prop where
  sum : d = 36524 * c + 1461 * q + 365 * y + x
  centuries : c ≤ 3
  cycles : q ≤ 24
  years : y ≤ 3
  days : x ≤ 365
  leapDay : x = 365 → y = 3 ∧ (q = 24 → c = 3)

/-- A count cut into pieces of one size, but not into too many: the last may be longer. -/
theorem cut (most size n : Nat) :
    ∃ k r, n = size * k + r ∧ k ≤ most ∧ (k < most → r < size) := by
  induction most generalizing n with
  | zero => exact ⟨0, n, by omega, Nat.le_refl 0, nofun⟩
  | succ most ih =>
    by_cases short : n < size
    · exact ⟨0, n, by omega, Nat.zero_le _, fun _ => short⟩
    · obtain ⟨k, r, sum, few, inside⟩ := ih (n - size)
      refine ⟨k + 1, r, ?_, Nat.succ_le_succ few, fun less => inside (Nat.lt_of_succ_lt_succ less)⟩
      rw [Nat.mul_succ]
      omega

theorem parts_exist {d : Nat} (inside : d < 146097) : ∃ c q y x, Parts d c q y x := by
  obtain ⟨c, r, sum, centuries, short⟩ := cut 3 36524 d
  obtain ⟨q, s, sum', cycles, short'⟩ := cut 24 1461 r
  obtain ⟨y, x, sum'', years, short''⟩ := cut 3 365 s
  have century : r ≤ 36524 ∧ (r = 36524 → c = 3) := by
    clear sum' sum'' short' short''
    omega
  have cycle : s ≤ 1460 ∧ (s = 1460 → q = 24 → r = 36524) := by
    clear sum sum'' short short''
    omega
  have year : x ≤ 365 ∧ (x = 365 → y = 3 ∧ s = 1460) := by
    clear sum sum' short short'
    omega
  refine ⟨c, q, y, x, ?_, centuries, cycles, years, year.1, ?_⟩
  · rw [sum, sum', sum'']
    simp only [Nat.add_assoc]
  · intro longest
    obtain ⟨last, whole⟩ := year.2 longest
    exact ⟨last, fun end_ => century.2 (cycle.2 whole end_)⟩

section Parts
variable {d c q y x : Nat} (parts : Parts d c q y x)
include parts

theorem daysBefore_parts : daysBefore (100 * c + 4 * q + y) + x = d := by
  obtain ⟨sum, centuries, cycles, years, days, -⟩ := parts
  have fourths : (100 * c + 4 * q + y) / 4 = 25 * c + q := by omega
  have hundredths : (100 * c + 4 * q + y) / 100 = c := by omega
  rw [daysBefore, fourths, hundredths, sum]
  omega

theorem yearOfEra_parts : yearOfEra d = 100 * c + 4 * q + y := by
  obtain ⟨sum, centuries, cycles, years, days, leapDay⟩ := parts
  have century : d / 36524 - d / 146096 = c ∧ d / 146096 ≤ d / 36524 := by
    have rest : 1461 * q + 365 * y + x ≤ 36524 := by omega
    rcases Nat.lt_or_eq_of_le rest with inside | last
    · omega
    · omega
  have cycle : d / 1460 = 25 * c + q + (24 * c + q + 365 * y + x) / 1460 := by
    rw [← Nat.mul_add_div (by decide), sum]
    congr 1
    omega
  -- the division comes out one higher on the last day of a long year, and never on a first day
  have reached : (24 * c + q + 365 * y + x) / 1460 ≤ x ∧
      x ≤ (24 * c + q + 365 * y + x) / 1460 + 364 := by
    clear century cycle sum
    omega
  have kept : d - d / 1460 + d / 36524 - d / 146096 =
      365 * (100 * c + 4 * q + y) + (x - (24 * c + q + 365 * y + x) / 1460) := by
    rw [Nat.add_sub_assoc century.2, century.1, cycle]
    clear century cycle
    omega
  rw [yearOfEra, kept, Nat.mul_add_div (by decide), Nat.div_eq_of_lt (by omega), Nat.add_zero]

theorem parts_leap (longest : x = 365) :
    leapYear (100 * c + 4 * q + y + 1 : Nat) = true := by
  obtain ⟨-, centuries, cycles, years, -, leapDay⟩ := parts
  obtain ⟨last, end_⟩ := leapDay longest
  unfold leapYear
  simp only [decide_eq_true_eq]
  omega

end Parts

/-- A date by its era, the year of the era and the day of the year, where years begin in March. -/
def ofMarch (era : Int) (y x : Nat) : Date :=
  let march := (5 * x + 2) / 153
  let month := if march < 10 then march + 3 else march - 9
  ⟨era * 400 + y + if month ≤ 2 then 1 else 0, month, x - marchDays march + 1⟩

theorem ofEpochDay_ofMarch (n : Int) :
    ∃ (era : Int) (y x : Nat), ofEpochDay n = ofMarch era y x ∧ y < 400 ∧ x ≤ 365 ∧
      (x = 365 → leapYear (y + 1 : Nat) = true) ∧
      n = era * eraDays + (daysBefore y + x : Nat) - epochShift := by
  have inside : ((n + epochShift) % eraDays).toNat < 146097 := by
    unfold eraDays
    omega
  obtain ⟨c, q, y, x, parts⟩ := parts_exist inside
  have year := yearOfEra_parts parts
  have days := daysBefore_parts parts
  have left : ((n + epochShift) % eraDays).toNat - daysBefore (100 * c + 4 * q + y) = x := by omega
  have split : eraDays * ((n + epochShift) / eraDays) + (n + epochShift) % eraDays =
      n + epochShift := Int.mul_ediv_add_emod _ _
  have made : ofEpochDay n = ofMarch ((n + epochShift) / eraDays)
      (yearOfEra ((n + epochShift) % eraDays).toNat)
      (((n + epochShift) % eraDays).toNat -
        daysBefore (yearOfEra ((n + epochShift) % eraDays).toNat)) := rfl
  have centuries := parts.centuries
  have cycles := parts.cycles
  have years := parts.years
  refine ⟨(n + epochShift) / eraDays, 100 * c + 4 * q + y, x, ?_, by omega, parts.days,
    parts_leap parts, ?_⟩
  · rw [made, year, left]
  · rw [days, Int.toNat_of_nonneg (Int.emod_nonneg _ (by decide)), Int.mul_comm]
    omega

theorem lt_marchDays_succ (x : Nat) : x < marchDays ((5 * x + 2) / 153 + 1) := by
  unfold marchDays
  omega

theorem marchDays_succ (year : Int) {march : Nat} (early : march ≤ 10) :
    marchDays (march + 1) =
      marchDays march + monthDays year (if march < 10 then march + 3 else march - 9) := by
  interval_cases march <;> rfl

theorem leapYear_era (era : Int) (y : Nat) : leapYear (era * 400 + y) = leapYear y := by
  unfold leapYear
  congr 1
  simp only [eq_iff_iff]
  omega

section OfMarch
variable {era : Int} {y x : Nat} (year : y < 400) (day : x ≤ 365)
include day

theorem march_bounds : (5 * x + 2) / 153 ≤ 11 ∧ marchDays ((5 * x + 2) / 153) ≤ x := by
  unfold marchDays
  omega

theorem ofMarch_month (era : Int) (y : Nat) :
    (ofMarch era y x).month ≤ 2 ∧ (ofMarch era y x).month + 9 = (5 * x + 2) / 153 ∨
      2 < (ofMarch era y x).month ∧ (ofMarch era y x).month = (5 * x + 2) / 153 + 3 := by
  have bounds := march_bounds day
  simp only [ofMarch]
  split <;> omega

theorem ofMarch_year (era : Int) (y : Nat) :
    (ofMarch era y x).year = era * 400 + y + if x < 306 then 0 else 1 := by
  have month := ofMarch_month day era y
  have early : (ofMarch era y x).month ≤ 2 ↔ ¬ x < 306 := by
    simp only [ofMarch]
    split <;> omega
  show era * 400 + y + (if (ofMarch era y x).month ≤ 2 then 1 else 0) = _
  by_cases before : x < 306
  · rw [if_neg (by omega), if_pos before]
  · rw [if_pos (by omega), if_neg before]

theorem ofMarch_valid (leap : x = 365 → leapYear (y + 1 : Nat) = true) :
    (ofMarch era y x).Valid := by
  obtain ⟨few, within⟩ := march_bounds day
  have next := lt_marchDays_succ x
  refine ⟨Nat.le_add_left 1 _, ?_⟩
  simp only [ofMarch]
  generalize (5 * x + 2) / 153 = march at few within next
  rcases Nat.lt_or_eq_of_le few with early | last
  · rw [marchDays_succ (era * 400 + y + if (if march < 10 then march + 3 else march - 9) ≤ 2
      then 1 else 0) (Nat.le_of_lt_succ early)] at next
    omega
  · -- the last month is February, the only one whose length depends on the year
    subst march
    have start : marchDays 11 = 337 := rfl
    have same : leapYear (era * 400 + y + 1) = leapYear (y + 1 : Nat) := by
      rw [Int.add_assoc]
      exact leapYear_era era (y + 1)
    show x - marchDays 11 + 1 ≤ if leapYear (era * 400 + y + 1) then 29 else 28
    rw [start, same]
    split
    · omega
    · rename_i common
      have short : x ≠ 365 := fun longest => common (leap longest)
      omega

include year

theorem toEpochDay_ofMarch :
    (ofMarch era y x).toEpochDay = era * eraDays + (daysBefore y + x : Nat) - epochShift := by
  obtain ⟨-, within⟩ := march_bounds day
  have month := ofMarch_month day era y
  have years : (ofMarch era y x).year - (if (ofMarch era y x).month ≤ 2 then 1 else 0) =
      era * 400 + y := Int.add_sub_cancel _ _
  have march : (if (ofMarch era y x).month ≤ 2 then (ofMarch era y x).month + 9
      else (ofMarch era y x).month - 3) = (5 * x + 2) / 153 := by
    split <;> omega
  have days : marchDays ((5 * x + 2) / 153) + (ofMarch era y x).day - 1 = x := by
    show marchDays _ + (x - marchDays _ + 1) - 1 = x
    omega
  have whole : (era * 400 + y) / 400 = era := by omega
  have rest : ((era * 400 + y) % 400).toNat = y := by omega
  unfold marchDays at days
  simp only [toEpochDay, years, march, days, whole, rest]
  unfold daysBefore
  omega

theorem epoch_iff :
    0 ≤ era * eraDays + (daysBefore y + x : Nat) - epochShift ↔ 1970 ≤ (ofMarch era y x).year := by
  rw [ofMarch_year day era y]
  unfold eraDays epochShift daysBefore
  rcases Int.lt_trichotomy era 4 with before | rfl | behind
  · split <;> omega
  · rcases Nat.lt_trichotomy y 369 with before | rfl | behind
    · split <;> omega
    · split <;> omega
    · split <;> omega
  · split <;> omega

end OfMarch

/-- The day of a date is the day that the date was made of. -/
theorem toEpochDay_ofEpochDay (n : Int) : (ofEpochDay n).toEpochDay = n := by
  obtain ⟨era, y, x, made, year, day, -, whole⟩ := ofEpochDay_ofMarch n
  rw [made, toEpochDay_ofMarch year day, ← whole]

theorem ofEpochDay_injective {m n : Int} (same : ofEpochDay m = ofEpochDay n) : m = n := by
  rw [← toEpochDay_ofEpochDay m, same, toEpochDay_ofEpochDay]

theorem ofEpochDay_valid (n : Int) : (ofEpochDay n).Valid := by
  obtain ⟨era, y, x, made, -, day, leap, -⟩ := ofEpochDay_ofMarch n
  rw [made]
  exact ofMarch_valid day leap

theorem ofEpochDay_year (n : Int) : 1970 ≤ (ofEpochDay n).year ↔ 0 ≤ n := by
  obtain ⟨era, y, x, made, year, day, -, whole⟩ := ofEpochDay_ofMarch n
  rw [made, whole]
  exact (epoch_iff year day).symm

theorem valid_bounds {d : Date} (valid : d.Valid) :
    1 ≤ d.month ∧ d.month ≤ 12 ∧ 1 ≤ d.day ∧ d.day ≤ 31 := by
  obtain ⟨first, last⟩ := valid
  unfold monthDays at last
  split at last
  · split at last <;> omega
  all_goals omega

end QueryBench.Date
