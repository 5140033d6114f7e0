import QueryBench.Decimal.Binary64
import QueryBench.Text.Pad

/- Numbers with a fixed count of decimal places. The exact value is rounded, halves to the even
   neighbour. -/
namespace QueryBench.Decimal

def powerOfTen (k : Nat) : Nat := Nat.pow 10 k

/-- The quotient rounded to the nearest whole number, halves to the even one. -/
def roundQuotient (n d : Nat) : Nat :=
  let q := n / d
  if 2 * (n % d) < d then q
  else if d < 2 * (n % d) then q + 1
  else q + q % 2

/-- Sets a point in front of the last `places` digits. -/
def withPoint (places n : Nat) : String :=
  if places = 0 then toString n
  else toString (n / powerOfTen places) ++ "." ++ Text.digits places (n % powerOfTen places)

def signed (negative : Bool) (s : String) : String := if negative then "-" ++ s else s

def fixed (places : Nat) (x : Float) : String :=
  match Binary64.ofFloat x with
  | .nan => "NaN"
  | .infinity negative => signed negative "inf"
  | .finite negative mantissa exponent =>
      let (n, d) := Binary64.ratio mantissa exponent
      signed negative (withPoint places (roundQuotient (n * powerOfTen places) d))

def field (width places : Nat) (x : Float) : String := Text.padLeft width ' ' (fixed places x)

end QueryBench.Decimal
