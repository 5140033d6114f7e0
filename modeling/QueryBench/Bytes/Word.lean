/- Whole numbers as bytes of a fixed count, in either order. -/
namespace QueryBench.Bytes

/-- The lowest `count` bytes of a number, the lowest first. -/
def little : Nat → Nat → List UInt8
  | 0, _ => []
  | count + 1, n => UInt8.ofNat (n % 256) :: little count (n / 256)

def ofLittle : List UInt8 → Nat
  | [] => 0
  | b :: bs => b.toNat + 256 * ofLittle bs

/-- The lowest `count` bytes of a number, the highest first. -/
def big (count n : Nat) : List UInt8 := (little count n).reverse

def ofBig (bs : List UInt8) : Nat := ofLittle bs.reverse

/-- The first `count` bytes and the rest, if there are that many. -/
def split? (count : Nat) (bs : List UInt8) : Option (List UInt8 × List UInt8) :=
  if count ≤ bs.length then some (bs.take count, bs.drop count) else none

end QueryBench.Bytes
