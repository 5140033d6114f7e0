import QueryBench.Text.Utf8
import QueryBench.Time.Moment

/- Reading moments from RFC 3339 texts. The zone may be missing, a blank may stand for the `T`, and
   a leap second counts as the second before it. Years before 1970 are out of range. -/
namespace QueryBench.Timestamp

inductive Error where
  | invalidFormat
  | invalidDigit
  | outOfRange
  deriving DecidableEq, Repr

def Error.message : Error → String
  | .invalidFormat => "timestamp format is invalid"
  | .invalidDigit => "bad character where digit is expected"
  | .outOfRange => "numeric component is out of range"

def digit (b : UInt8) : Except Error Nat :=
  if 48 ≤ b ∧ b ≤ 57 then .ok (b.toNat - 48) else .error .invalidDigit

def twoDigits (a b : UInt8) : Except Error Nat := do
  let tens ← digit a
  let ones ← digit b
  .ok (10 * tens + ones)

/-- The nanoseconds behind a point, the next digit counting `unit`. A `Z` ends the text; a `+` must
be followed by five more characters, which are not looked at. Digits past the ninth are checked and
count nothing. -/
def fraction : Nat → List UInt8 → Except Error Nat
  | _, [] => .ok 0
  | unit, b :: rest =>
      if b = 'Z'.toUInt8 then if rest = [] then .ok 0 else .error .invalidDigit
      else if b = '+'.toUInt8 then if rest.length = 5 then .ok 0 else .error .invalidDigit
      else do
        let d ← digit b
        let more ← fraction (unit / 10) rest
        .ok (d * unit + more)

/-- What follows the seconds: nothing, a fraction, or a zone. A text that goes on behind a `Z` is
taken as long as it is no longer than one with an offset. -/
def tail : List UInt8 → Except Error Nat
  | [] => .ok 0
  | b :: rest =>
      if b = '.'.toUInt8 then fraction 100000000 rest
      else if 6 < (b :: rest).length then .error .invalidFormat
      else if b = 'Z'.toUInt8 ∨ b :: rest = Text.bytes "+00:00" then .ok 0
      else .error .invalidFormat

def parseBytes : List UInt8 → Except Error Moment
  | y₁ :: y₂ :: y₃ :: y₄ :: s₁ :: m₁ :: m₂ :: s₂ :: d₁ :: d₂ :: s₃ :: h₁ :: h₂ :: s₄ :: n₁ :: n₂ ::
      s₅ :: t₁ :: t₂ :: rest => do
    let dash := '-'.toUInt8
    let colon := ':'.toUInt8
    let between := s₃ = 'T'.toUInt8 ∨ s₃ = ' '.toUInt8
    if ¬ (s₁ = dash ∧ s₂ = dash ∧ between ∧ s₄ = colon ∧ s₅ = colon) then
      .error .invalidFormat
    else
      let century ← twoDigits y₁ y₂
      let yearOfCentury ← twoDigits y₃ y₄
      let month ← twoDigits m₁ m₂
      let day ← twoDigits d₁ d₂
      let hour ← twoDigits h₁ h₂
      let minute ← twoDigits n₁ n₂
      let second ← twoDigits t₁ t₂
      let date : Date := ⟨(century * 100 + yearOfCentury : Nat), month, day⟩
      if date.year < 1970 ∨ 23 < hour ∨ 59 < minute ∨ 60 < second ∨ ¬ date.Valid then
        .error .outOfRange
      else
        let nanos ← tail rest
        .ok ⟨date.toEpochDay * 86400 + (hour * 3600 + minute * 60 + min second 59 : Nat), nanos⟩
  | _ => .error .invalidFormat

def parse (s : String) : Except Error Moment := parseBytes (Text.bytes s)

end QueryBench.Timestamp
