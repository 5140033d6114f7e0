import QueryBench.Decimal.Fixed

/- The fewest digits that tell a number from its neighbours. A decimal reads back as a number
   exactly when it lies between the two points halfway to the numbers next to it; the ends count
   when the mantissa is even. Of the grids 10^k the coarsest one with a point in that range is
   taken, and on it the point that is nearest to the number. -/
namespace QueryBench.Decimal

inductive Tie where
  | even
  | up
  deriving DecidableEq, Repr

/-- A whole number of digits times a power of ten. -/
structure Digits where
  digits : Nat
  exponent : Int
  deriving DecidableEq, Repr

/-- The numbers next to this one are nearer below than above at the powers of two, the least of
them apart. -/
def narrowBelow (mantissa : Nat) (exponent : Int) : Bool :=
  mantissa = Binary64.hiddenBit ∧ -1074 < exponent

def compareScaled (a : Nat) (i : Int) (n : Nat) (j : Int) : Ordering :=
  compare ((a * powerOfTen i.toNat) <<< (-j).toNat) ((n * powerOfTen (-i).toNat) <<< j.toNat)

def readsBack (mantissa : Nat) (exponent : Int) (d : Digits) : Bool :=
  let below := 4 * mantissa - if narrowBelow mantissa exponent then 1 else 2
  let above := 4 * mantissa + 2
  let low := compareScaled d.digits d.exponent below (exponent - 2)
  let high := compareScaled d.digits d.exponent above (exponent - 2)
  let closed := mantissa % 2 = 0
  (low = .gt ∨ low = .eq ∧ closed) ∧ (high = .lt ∨ high = .eq ∧ closed)

/-- The least `k` with the number below `10^k`. No number is so small that it has no digit within
the first 340 places. -/
def magnitude (mantissa : Nat) (exponent : Int) : Int :=
  let (n, d) := Binary64.ratio mantissa exponent
  (toString (n * powerOfTen 340 / d)).length - 340

/-- The point of the grid `10^k` below the number. -/
def gridFloor (mantissa : Nat) (exponent k : Int) : Nat :=
  let (n, d) := Binary64.ratio mantissa exponent
  n * powerOfTen (-k).toNat / (d * powerOfTen k.toNat)

/-- Whether the upper of the two grid points around the number is the one to take when both read
back. -/
def prefersUpper (tie : Tie) (mantissa : Nat) (exponent k : Int) (low : Nat) : Bool :=
  match compareScaled (2 * low + 1) k (2 * mantissa) exponent with
  | .lt => true
  | .gt => false
  | .eq => tie = .up ∨ low % 2 = 1

/-- A grid point next to the number that reads back. -/
def onGrid? (tie : Tie) (mantissa : Nat) (exponent k : Int) : Option Digits :=
  let low := gridFloor mantissa exponent k
  let lower : Digits := ⟨low, k⟩
  let upper : Digits := ⟨low + 1, k⟩
  match readsBack mantissa exponent lower, readsBack mantissa exponent upper with
  | true, true => if prefersUpper tie mantissa exponent k low then some upper else some lower
  | true, false => some lower
  | false, true => some upper
  | false, false => none

def stripZeros : Nat → Digits → Digits
  | 0, d => d
  | fuel + 1, d =>
      if d.digits ≠ 0 ∧ d.digits % 10 = 0 then stripZeros fuel ⟨d.digits / 10, d.exponent + 1⟩
      else d

/-- The shortest digits of a positive number. Seventeen of them always do. -/
def shortest (tie : Tie) (mantissa : Nat) (exponent : Int) : Digits :=
  let top := magnitude mantissa exponent
  let grids := (List.range 17).map fun n => top - (n + 1 : Nat)
  let (n, d) := Binary64.ratio mantissa exponent
  stripZeros 400
    ((grids.findSome? (onGrid? tie mantissa exponent)).getD ⟨n * powerOfTen 1074 / d, -1074⟩)

/-- The digits with a point at its place and no exponent. -/
def positional (d : Digits) : String :=
  if 0 ≤ d.exponent then toString (d.digits * powerOfTen d.exponent.toNat)
  else withPoint (-d.exponent).toNat d.digits

def plain (x : Float) : String :=
  match Binary64.ofFloat x with
  | .nan => "NaN"
  | .infinity negative => signed negative "inf"
  | .finite negative 0 _ => signed negative "0"
  | .finite negative mantissa exponent =>
      signed negative (positional (shortest .up mantissa exponent))

end QueryBench.Decimal
