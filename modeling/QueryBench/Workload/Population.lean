import QueryBench.Random.Sample

/- The entities that queries ask about: how many there are, and the stream that picks among them. -/
namespace QueryBench

namespace Sample

inductive Error where
  | countTooSmall (entity : String) (count : Nat)
  | countTooLarge (entity : String) (count total : Nat)
  deriving DecidableEq, Repr

def Error.message : Error → String
  | .countTooSmall entity count =>
      "number of " ++ entity ++ " cannot be < 1; got " ++ toString count
  | .countTooLarge entity count total =>
      "number of " ++ entity ++ " (" ++ toString count ++ ") larger than total " ++ entity ++
        ". See --scale (" ++ toString total ++ ")"

/-- So many distinct numbers below `total`. A count that cannot be met takes no word. -/
def checked (entity : String) (count total : Nat) (k : Keystream) :
    Except Error (List Nat) × Keystream :=
  if count < 1 then (.error (.countTooSmall entity count), k)
  else if total < count then (.error (.countTooLarge entity count total), k)
  else
    let (found, k) := indices count total k
    (.ok found, k)

def nameOf (stem : String) (i : Nat) : String := stem ++ "_" ++ toString i

/-- The names of `count` distinct entities, such as `host_3`. -/
def names (entity : String) (count total : Nat) (stem : String) (k : Keystream) :
    Except Error (List String) × Keystream :=
  let (found, k) := checked entity count total k
  (found.map (·.map (nameOf stem)), k)

end Sample

/-- How many hosts there are, and the stream that every draw of a workload takes its words from. -/
structure Population where
  scale : Nat
  seed : UInt64
  random : Keystream
  deriving DecidableEq, Repr

namespace Population

def ofSeed (scale : Nat) (seed : UInt64) : Population := ⟨scale, seed, Keystream.ofSeed seed⟩

def hosts (count : Nat) (p : Population) : Except Sample.Error (List String) × Population :=
  let (found, random) := Sample.names "hosts" count p.scale "host" p.random
  (found, { p with random })

end Population

end QueryBench
