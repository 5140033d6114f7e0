import Mathlib.Data.List.Basic
import Mathlib.Tactic.Ring
import QueryBench.Proofs.Calendar
import QueryBench.Proofs.Delimited
import QueryBench.Proofs.Interleave
import QueryBench.Time.Timestamp

/- The texts of moments. A text has fields of a fixed width and a fraction that ends where no digit
   follows, so it gives the moment to the nanosecond, and reading it as a timestamp finds it again.
-/
namespace QueryBench

namespace Text

theorem bytes_toList (s : String) : bytes s = s.toList.flatMap String.utf8EncodeChar := by
  have spelled : bytes (String.ofList s.toList) = s.toList.flatMap String.utf8EncodeChar := by
    show (String.ofList s.toList).toByteArray.data.toList = _
    rw [String.toByteArray_ofList]
    exact List.toList_data_toByteArray
  rwa [String.ofList_toList] at spelled

theorem bytes_append (s t : String) : bytes (s ++ t) = bytes s ++ bytes t := by
  rw [bytes_toList, bytes_toList, bytes_toList, String.toList_append, List.flatMap_append]

def digitByte (d : Nat) : UInt8 := UInt8.ofNat (48 + d)

theorem bytes_digits {width n : Nat} (positive : 0 < width) (fits : n < 10 ^ width) :
    bytes (digits width n) = (decimals width n).map digitByte := by
  have single : ∀ d < 10, String.utf8EncodeChar (Nat.digitChar d) = [digitByte d] := by decide
  rw [bytes_toList, digits_toList positive fits, List.flatMap_map, List.map_eq_flatMap]
  exact List.flatMap_congr fun d member => single d (decimals_lt d member)

end Text

namespace Moment
open Text

/-- A fraction with so many digits, which count units of their last place. -/
structure Fraction (m : Moment) (width value unit : Nat) : Prop where
  some_ : 0 < width
  units : 10 ^ width * unit = nanosPerSecond
  fits : value < 10 ^ width
  nanos : m.nanos % nanosPerSecond = value * unit
  text : m.fractionText = "." ++ Text.digits width value

theorem fractionText_cases (m : Moment) :
    m.nanos % nanosPerSecond = 0 ∧ m.fractionText = "" ∨
      ∃ width value unit, m.Fraction width value unit := by
  have below : m.nanos % nanosPerSecond < 1000000000 := Nat.mod_lt _ (by decide)
  by_cases none_ : m.nanos % nanosPerSecond = 0
  · exact .inl ⟨none_, if_pos none_⟩
  · right
    by_cases millis : m.nanos % nanosPerSecond % 1000000 = 0
    · refine ⟨3, m.nanos % nanosPerSecond / 1000000, 1000000, by decide, by decide, by omega,
        by omega, ?_⟩
      simp only [fractionText, if_neg none_, if_pos millis]
    · by_cases micros : m.nanos % nanosPerSecond % 1000 = 0
      · refine ⟨6, m.nanos % nanosPerSecond / 1000, 1000, by decide, by decide, by omega,
          by omega, ?_⟩
        simp only [fractionText, if_neg none_, if_neg millis, if_pos micros]
      · refine ⟨9, m.nanos % nanosPerSecond, 1, by decide, by decide, below, by omega, ?_⟩
        simp only [fractionText, if_neg none_, if_neg millis, if_neg micros]

/-- A moment between the years 0 and 9999 that is no leap second. -/
structure Common (m : Moment) : Prop where
  old : 0 ≤ m.date.year
  new : m.date.year ≤ 9999
  nanos : m.nanos < nanosPerSecond

theorem ofNanos_common {n : Int} (lower : -0x8000000000000000 ≤ n)
    (upper : n < 0x8000000000000000) : (ofNanos n).Common := by
  have days : -200000 ≤ (ofNanos n).seconds / 86400 ∧
      (ofNanos n).seconds / 86400 ≤ 200000 := by
    simp only [ofNanos, nanosPerSecond]
    omega
  obtain ⟨old, new, -, -⟩ := Date.ofEpochDay_small days.1 days.2
  refine ⟨old, new, ?_⟩
  simp only [ofNanos, nanosPerSecond]
  omega

theorem toNanos_ofNanos (n : Int) : (ofNanos n).toNanos = n := by
  simp only [toNanos, ofNanos, nanosPerSecond]
  omega

def clock (m : Moment) : Nat := (m.seconds % 86400).toNat

theorem clock_lt (m : Moment) : m.clock < 86400 := by
  unfold clock
  omega

theorem date_valid (m : Moment) : m.date.Valid := Date.ofEpochDay_valid _

theorem yearText_common {m : Moment} (common : m.Common) :
    yearText m.date.year = digits 4 m.date.year.toNat := if_pos ⟨common.old, common.new⟩

theorem clockText_common {m : Moment} (common : m.Common) :
    m.clockText =
      digits 2 (m.clock / 3600) ++ ":" ++ digits 2 (m.clock / 60 % 60) ++ ":" ++
        digits 2 (m.clock % 60) := by
  have noLeap : m.nanos / nanosPerSecond = 0 := Nat.div_eq_of_lt common.nanos
  simp only [clockText, noLeap]
  rfl

/-- A text that does not go on with the fraction that it stands behind. -/
def Closes (s : String) : Prop :=
  ∃ c rest, s.toList = c :: rest ∧ c.isDigit = false ∧ c ≠ '.'

theorem closes_append {s : String} (closes : Closes s) (t : String) : Closes (s ++ t) := by
  obtain ⟨c, rest, spelled, digit, point⟩ := closes
  exact ⟨c, rest ++ t.toList, by rw [String.toList_append, spelled, List.cons_append], digit, point⟩

theorem closes_point {s : String} (closes : Closes s) (t : String) : s ≠ "." ++ t := by
  rintro rfl
  obtain ⟨c, rest, spelled, -, point⟩ := closes
  rw [String.toList_append] at spelled
  exact point (List.cons.inj spelled).1.symm

theorem digits_front {width n : Nat} (positive : 0 < width) (fits : n < 10 ^ width) {s : String}
    (closes : Closes s) :
    (digits width n ++ s).toList.takeWhile Char.isDigit = (digits width n).toList := by
  obtain ⟨c, rest, spelled, digit, -⟩ := closes
  have all : ∀ c ∈ (digits width n).toList, c.isDigit = true := by
    have single : ∀ d < 10, (Nat.digitChar d).isDigit = true := by decide
    rw [digits_toList positive fits, List.forall_mem_map]
    exact fun d member => single d (decimals_lt d member)
  have behind : (c :: rest).takeWhile Char.isDigit = [] :=
    List.takeWhile_cons_of_neg (by simp [digit])
  rw [String.toList_append, List.takeWhile_append_of_pos all, spelled, behind, List.append_nil]

/-- The digits of a fraction tell how many they are, and so what they count. -/
theorem fraction_append {m n : Moment} {s t : String} (closes : Closes s) (closes' : Closes t)
    (same : m.fractionText ++ s = n.fractionText ++ t) :
    m.nanos % nanosPerSecond = n.nanos % nanosPerSecond ∧ s = t := by
  rcases m.fractionText_cases with ⟨none_, text⟩ | ⟨width, value, unit, fraction⟩
  · rcases n.fractionText_cases with ⟨none_', text'⟩ | ⟨width', value', unit', fraction'⟩
    · rw [text, text', String.append_right_inj] at same
      exact ⟨none_.trans none_'.symm, same⟩
    · rw [text, fraction'.text, String.empty_append, String.append_assoc] at same
      exact absurd same (closes_point closes _)
  · rcases n.fractionText_cases with ⟨none_', text'⟩ | ⟨width', value', unit', fraction'⟩
    · rw [fraction.text, text', String.empty_append, String.append_assoc] at same
      exact absurd same.symm (closes_point closes' _)
    · rw [fraction.text, fraction'.text, String.append_assoc, String.append_assoc,
        String.append_right_inj] at same
      have front := digits_front fraction.some_ fraction.fits closes
      rw [same, digits_front fraction'.some_ fraction'.fits closes'] at front
      have width_ : width = width' := by
        rw [← length_digits fraction.some_ fraction.fits, ← front,
          length_digits fraction'.some_ fraction'.fits]
      subst width_
      have unit_ : unit = unit' := Nat.eq_of_mul_eq_mul_left (Nat.pow_pos (n := width) (by decide))
        (fraction.units.trans fraction'.units.symm)
      obtain ⟨value_, rest⟩ :=
        delimited_digits fraction.some_ value value' fraction.fits fraction'.fits s t same
      exact ⟨by rw [fraction.nanos, fraction'.nanos, value_, unit_], rest⟩

theorem delimited_render (between : String) {after : String} (closes : Closes after) :
    Delimited Common (render between after) := by
  intro m n common common' s t same
  obtain ⟨-, months, -, days⟩ := Date.valid_bounds m.date_valid
  obtain ⟨-, months', -, days'⟩ := Date.valid_bounds n.date_valid
  have old := common.old
  have old' := common'.old
  have new := common.new
  have new' := common'.new
  have inDay := m.clock_lt
  have inDay' := n.clock_lt
  have two : Delimited (· < 10 ^ 2) (digits 2) := delimited_digits (by decide)
  have four : Delimited (· < 10 ^ 4) (digits 4) := delimited_digits (by decide)
  simp only [render, dateText, yearText_common common, yearText_common common',
    clockText_common common, clockText_common common', String.append_assoc] at same
  obtain ⟨year, same⟩ := four _ _ (by omega) (by omega) _ _ same
  obtain ⟨month, same⟩ := two _ _ (by omega) (by omega) _ _ ((String.append_right_inj _).mp same)
  obtain ⟨day, same⟩ := two _ _ (by omega) (by omega) _ _ ((String.append_right_inj _).mp same)
  rw [String.append_right_inj] at same
  obtain ⟨hour, same⟩ := two _ _ (by omega) (by omega) _ _ same
  obtain ⟨minute, same⟩ := two _ _ (by omega) (by omega) _ _ ((String.append_right_inj _).mp same)
  obtain ⟨second, same⟩ := two _ _ (by omega) (by omega) _ _ ((String.append_right_inj _).mp same)
  obtain ⟨nanos, same⟩ := fraction_append (closes_append closes s) (closes_append closes t) same
  rw [String.append_right_inj] at same
  have years : m.date.year = n.date.year := by omega
  have date : m.date = n.date := by
    show (⟨m.date.year, m.date.month, m.date.day⟩ : Date) = ⟨n.date.year, n.date.month, n.date.day⟩
    rw [years, month, day]
  have days := Date.ofEpochDay_injective date
  have clock : m.clock = n.clock := by omega
  have seconds : m.seconds = n.seconds := by
    unfold Moment.clock at clock
    omega
  rw [Nat.mod_eq_of_lt common.nanos, Nat.mod_eq_of_lt common'.nanos] at nanos
  refine ⟨?_, same⟩
  show (⟨m.seconds, m.nanos⟩ : Moment) = ⟨n.seconds, n.nanos⟩
  rw [seconds, nanos]

end Moment

namespace Timestamp
open Text

theorem digit_digitByte {d : Nat} (below : d < 10) : digit (digitByte d) = .ok d :=
  (show ∀ d < 10, digit (digitByte d) = .ok d by decide) d below

theorem twoDigits_decimals {n : Nat} (fits : n < 100) :
    twoDigits (digitByte (n / 10 % 10)) (digitByte (n % 10)) = .ok n := by
  have whole : 10 * (n / 10 % 10) + n % 10 = n := by omega
  rw [twoDigits, digit_digitByte (Nat.mod_lt _ (by decide)),
    digit_digitByte (Nat.mod_lt _ (by decide))]
  exact congrArg Except.ok whole

theorem fraction_decimals (unit : Nat) (width n : Nat) :
    fraction (10 ^ width * unit / 10) ((decimals width n).map digitByte ++ bytes "Z") =
      .ok (n % 10 ^ width * unit) := by
  induction width with
  | zero =>
    rw [Nat.pow_zero, Nat.mod_one, Nat.zero_mul]
    rfl
  | succ width ih =>
    have place : 10 ^ (width + 1) * unit / 10 = 10 ^ width * unit := by
      rw [Nat.pow_succ', Nat.mul_assoc]
      exact Nat.mul_div_cancel_left _ (by decide)
    have below : n / 10 ^ width % 10 < 10 := Nat.mod_lt _ (by decide)
    have other : ∀ d < 10, digitByte d ≠ 'Z'.toUInt8 ∧ digitByte d ≠ '+'.toUInt8 := by decide
    rw [decimals, List.map_cons, List.cons_append, fraction, if_neg (other _ below).1,
      if_neg (other _ below).2, digit_digitByte below, place, ih, Nat.pow_succ, Nat.mod_mul]
    show Except.ok _ = Except.ok _
    congr 1
    ring

theorem parseBytes_fields {year month day hour minute second : Nat} (fourDigits : year < 10000)
    (months : month < 100) (days : day < 100) (hours : hour < 100) (minutes : minute < 100)
    (seconds : second < 100) (rest : List UInt8) :
    parseBytes ((decimals 4 year).map digitByte ++ bytes "-" ++ (decimals 2 month).map digitByte ++
        bytes "-" ++ (decimals 2 day).map digitByte ++ bytes "T" ++
        (decimals 2 hour).map digitByte ++ bytes ":" ++ (decimals 2 minute).map digitByte ++
        bytes ":" ++ (decimals 2 second).map digitByte ++ rest) =
      if (year : Int) < 1970 ∨ 23 < hour ∨ 59 < minute ∨ 60 < second ∨
        ¬ (⟨year, month, day⟩ : Date).Valid then .error .outOfRange
      else (tail rest).map fun nanos =>
        ⟨(⟨year, month, day⟩ : Date).toEpochDay * 86400 +
          (hour * 3600 + minute * 60 + min second 59 : Nat), nanos⟩ := by
  have dash : bytes "-" = ['-'.toUInt8] := by decide
  have colon : bytes ":" = [':'.toUInt8] := by decide
  have letter : bytes "T" = ['T'.toUInt8] := by decide
  have two : ∀ n, decimals 2 n = [n / 10 % 10, n % 10] := by
    intro n
    simp [decimals]
  have four : decimals 4 year =
      [year / 100 / 10 % 10, year / 100 % 10, year % 100 / 10 % 10, year % 100 % 10] := by
    simp only [decimals, List.cons.injEq, and_true]
    omega
  have century := twoDigits_decimals (n := year / 100) (by omega)
  have yearOfCentury := twoDigits_decimals (n := year % 100) (by omega)
  rw [dash, colon, letter, two, two, two, two, two, four]
  simp only [List.map_cons, List.map_nil, List.cons_append, List.nil_append, parseBytes]
  rw [century, yearOfCentury, twoDigits_decimals months, twoDigits_decimals days,
    twoDigits_decimals hours, twoDigits_decimals minutes, twoDigits_decimals seconds]
  have whole : year / 100 * 100 + year % 100 = year := by omega
  rw [if_neg (by simp)]
  simp only [bind, Except.bind, whole]
  split
  · rfl
  · cases tail rest <;> rfl

theorem tail_fractionText (m : Moment) :
    tail (bytes (m.fractionText ++ "Z")) = .ok (m.nanos % nanosPerSecond) := by
  rcases m.fractionText_cases with
    ⟨none_, text⟩ | ⟨width, value, unit, some_, units, fits, nanos, text⟩
  · rw [none_, text]
    decide
  · have first : 10 ^ width * unit / 10 = 100000000 := by
      rw [units]
      rfl
    have point : bytes "." = ['.'.toUInt8] := by decide
    rw [text, bytes_append, bytes_append, bytes_digits some_ fits, point, List.append_assoc,
      List.singleton_append]
    show fraction 100000000 _ = _
    rw [← first, fraction_decimals, Nat.mod_eq_of_lt fits, nanos]

end Timestamp

open Text in
theorem Moment.bytes_toText {m : Moment} (common : m.Common) :
    bytes m.toText = (decimals 4 m.date.year.toNat).map digitByte ++ bytes "-" ++
      (decimals 2 m.date.month).map digitByte ++ bytes "-" ++
      (decimals 2 m.date.day).map digitByte ++ bytes "T" ++
      (decimals 2 (m.clock / 3600)).map digitByte ++ bytes ":" ++
      (decimals 2 (m.clock / 60 % 60)).map digitByte ++ bytes ":" ++
      (decimals 2 (m.clock % 60)).map digitByte ++ bytes (m.fractionText ++ "Z") := by
  obtain ⟨-, months, -, days⟩ := Date.valid_bounds m.date_valid
  have new := common.new
  have inDay := m.clock_lt
  rw [toText, render, dateText, yearText_common common, clockText_common common]
  simp only [bytes_append, List.append_assoc]
  rw [bytes_digits (by decide) (show m.date.year.toNat < 10 ^ 4 by omega),
    bytes_digits (by decide) (show m.date.month < 10 ^ 2 by omega),
    bytes_digits (by decide) (show m.date.day < 10 ^ 2 by omega),
    bytes_digits (by decide) (show m.clock / 3600 < 10 ^ 2 by omega),
    bytes_digits (by decide) (show m.clock / 60 % 60 < 10 ^ 2 by omega),
    bytes_digits (by decide) (show m.clock % 60 < 10 ^ 2 by omega)]

theorem Timestamp.parse_toText {m : Moment} (common : m.Common) :
    parse m.toText = if 0 ≤ m.seconds then .ok m else .error .outOfRange := by
  obtain ⟨-, months, -, days⟩ := Date.valid_bounds m.date_valid
  have old := common.old
  have new := common.new
  have since : 1970 ≤ m.date.year ↔ 0 ≤ m.seconds / 86400 := Date.ofEpochDay_year _
  have inDay := m.clock_lt
  have read : (⟨m.date.year.toNat, m.date.month, m.date.day⟩ : Date) = m.date := by
    rw [Int.toNat_of_nonneg old]
  rw [parse, Moment.bytes_toText common, parseBytes_fields (by omega) (by omega) (by omega)
    (by omega) (by omega) (by omega), read, Int.toNat_of_nonneg old, tail_fractionText,
    Nat.mod_eq_of_lt common.nanos]
  by_cases after : 0 ≤ m.seconds
  · have fine : ¬ (m.date.year < 1970 ∨ 23 < m.clock / 3600 ∨ 59 < m.clock / 60 % 60 ∨
        60 < m.clock % 60 ∨ ¬ m.date.Valid) := by
      have valid := m.date_valid
      rintro (year | hour | minute | second | wrong)
      · omega
      · omega
      · omega
      · omega
      · exact wrong valid
    have day : m.date.toEpochDay = m.seconds / 86400 := Date.toEpochDay_ofEpochDay _
    have whole : m.seconds / 86400 * 86400 + (m.clock / 3600 * 3600 + m.clock / 60 % 60 * 60 +
        min (m.clock % 60) 59 : Nat) = m.seconds := by
      unfold Moment.clock at inDay ⊢
      omega
    rw [if_neg fine, if_pos after, day]
    simp only [Except.map, whole]
  · have early : m.date.year < 1970 := by omega
    rw [if_pos (.inl early), if_neg after]

theorem Interval.parse_timeText {t : Int} (lower : -0x8000000000000000 ≤ t)
    (upper : t < 0x8000000000000000) :
    Timestamp.parse (timeText t) =
      if 0 ≤ t then .ok ⟨t / 1000000000, (t % 1000000000).toNat⟩ else .error .outOfRange := by
  have since : 0 ≤ (Moment.ofNanos t).seconds ↔ 0 ≤ t := by
    simp only [Moment.ofNanos, nanosPerSecond]
    omega
  rw [timeText, Timestamp.parse_toText (Moment.ofNanos_common lower upper)]
  simp only [since]
  rfl

/-- Every time of 64 bits that a range of time shows can be read again, to the nanosecond, unless it
lies before 1970. So a range since then is found again from the two texts that it shows. -/
theorem Interval.texts_read_back (i : Interval) :
    Timestamp.parse i.startText =
        (if 0 ≤ i.start then .ok ⟨i.start / 1000000000, (i.start % 1000000000).toNat⟩
          else .error .outOfRange) ∧
      Timestamp.parse i.finishText =
        (if 0 ≤ i.finish then .ok ⟨i.finish / 1000000000, (i.finish % 1000000000).toNat⟩
          else .error .outOfRange) ∧
      (0 ≤ i.start → ∃ start finish, Timestamp.parse i.startText = .ok start ∧
        Timestamp.parse i.finishText = .ok finish ∧ ofMoments start finish = .ok i) := by
  have lower := i.lower
  have upper := i.upper
  have ordered := i.ordered
  have start := parse_timeText lower (by omega)
  have finish := parse_timeText (by omega) upper
  refine ⟨start, finish, ?_⟩
  intro since
  rw [if_pos since] at start
  rw [if_pos (by omega)] at finish
  refine ⟨_, _, start, finish, ?_⟩
  exact ofMoments_eq_ok.mpr
    ⟨(Moment.toNanos_ofNanos i.start).symm, (Moment.toNanos_ofNanos i.finish).symm⟩

def Interval.leapDayOn : Interval :=
  ⟨951782400000000001, 0x7fffffffffffffff, by decide, by decide, by decide⟩

theorem Interval.leapDayOn_reads_back :
    leapDayOn.startText = "2000-02-29T00:00:00.000000001Z" ∧
      leapDayOn.finishText = "2262-04-11T23:47:16.854775807Z" ∧
      Timestamp.parse leapDayOn.startText = .ok ⟨951782400, 1⟩ ∧
      Timestamp.parse leapDayOn.finishText = .ok ⟨9223372036, 854775807⟩ ∧
      ∃ start finish, Timestamp.parse leapDayOn.startText = .ok start ∧
        Timestamp.parse leapDayOn.finishText = .ok finish ∧
        ofMoments start finish = .ok leapDayOn := by
  obtain ⟨start, finish, again⟩ := texts_read_back leapDayOn
  exact ⟨by decide, by decide, start, finish, again (by decide)⟩

end QueryBench
