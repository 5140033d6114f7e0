/- Reading decimal numbers. -/
namespace QueryBench.Decimal

/-- The parts of a decimal number that has been read so far. -/
structure Reading where
  digits : Nat := 0
  count : Nat := 0
  places : Nat := 0
  deriving DecidableEq, Repr

/-- Takes digits for as long as there are any, behind the point if `behind`. -/
def takeDigits (behind : Bool) (r : Reading) : List Char → Reading × List Char
  | [] => (r, [])
  | c :: rest =>
      if c.isDigit then
        takeDigits behind
          { digits := r.digits * 10 + (c.toNat - '0'.toNat)
            count := r.count + 1
            places := if behind then r.places + 1 else r.places }
          rest
      else (r, c :: rest)

def wholeNumber? (cs : List Char) : Option Int :=
  let (negative, cs) := match cs with
    | '-' :: rest => (true, rest)
    | '+' :: rest => (false, rest)
    | cs => (false, cs)
  match takeDigits false {} cs with
  | (r, []) => if r.count = 0 then none else some (if negative then -(r.digits : Int) else r.digits)
  | _ => none

def natural? (cs : List Char) : Option Nat :=
  match cs with
  | '-' :: _ => none
  | _ => (wholeNumber? cs).map Int.toNat

/-- Digits with an optional point and an optional exponent; there is at least one digit. -/
def magnitude? (cs : List Char) : Option Float :=
  let (whole, rest) := takeDigits false {} cs
  let (r, rest) := match rest with
    | '.' :: rest => takeDigits true whole rest
    | rest => (whole, rest)
  if r.count = 0 then none
  else
    let scaled (exponent : Int) : Float :=
      let e := max (-100000) (min 100000 (exponent - r.places))
      Float.ofScientific r.digits (e < 0) e.natAbs
    match rest with
    | [] => some (scaled 0)
    | c :: rest => if c = 'e' ∨ c = 'E' then (wholeNumber? rest).map scaled else none

/-- The number that a text spells, with names for infinity and for what is no number. -/
def read? (s : String) : Option Float :=
  let unsigned (cs : List Char) : Option Float :=
    let name := String.ofList (cs.map Char.toLower)
    if name = "inf" ∨ name = "infinity" then some (1 / 0)
    else if name = "nan" then some (0 / 0)
    else magnitude? cs
  match s.toList with
  | '-' :: rest => (unsigned rest).map (- ·)
  | '+' :: rest => unsigned rest
  | cs => unsigned cs

end QueryBench.Decimal
