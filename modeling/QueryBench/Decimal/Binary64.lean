/- What a 64-bit floating point number stands for: a whole number times a power of two. -/
namespace QueryBench

inductive Binary64 where
  | nan
  | infinity (negative : Bool)
  | finite (negative : Bool) (mantissa : Nat) (exponent : Int)
  deriving DecidableEq, Repr

namespace Binary64

/-- The bit of a mantissa that is not written, which all but the least numbers have. -/
def hiddenBit : Nat := 0x10000000000000

def ofBits (bits : UInt64) : Binary64 :=
  let negative := bits >>> 63 = 1
  let exponent := ((bits >>> 52) &&& 0x7ff).toNat
  let fraction := (bits &&& 0xfffffffffffff).toNat
  if exponent = 0x7ff then if fraction = 0 then .infinity negative else .nan
  else if exponent = 0 then .finite negative fraction (-1074)
  else .finite negative (hiddenBit + fraction) (exponent - 1075)

def ofFloat (x : Float) : Binary64 := ofBits x.toBits

def ratio (mantissa : Nat) (exponent : Int) : Nat × Nat :=
  (mantissa <<< exponent.toNat, 1 <<< (-exponent).toNat)

/-- The nearest whole number, halves rounded up; what is below zero or no number gives zero, and
nothing gives more than `most`. -/
def toNatUpTo (most : Nat) : Binary64 → Nat
  | .nan | .infinity true | .finite true _ _ => 0
  | .infinity false => most
  | .finite false mantissa exponent =>
      let (n, d) := ratio mantissa exponent
      min most ((2 * n + d) / (2 * d))

/-- The least whole number that is not below; the ends are as in `toNatUpTo`. -/
def ceilUpTo (most : Nat) : Binary64 → Nat
  | .nan | .infinity true | .finite true _ _ => 0
  | .infinity false => most
  | .finite false mantissa exponent =>
      let (n, d) := ratio mantissa exponent
      min most ((n + d - 1) / d)

end Binary64

end QueryBench
