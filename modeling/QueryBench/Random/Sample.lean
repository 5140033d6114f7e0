import QueryBench.Random.Draw

/- Distinct numbers out of `0 .. total - 1`, in a random order. Three methods do the same job at
   different costs; which one runs depends on the two sizes alone, and decides how many words the
   stream loses and in which order the numbers appear. -/
namespace QueryBench.Sample

def insertBefore (old new : Nat) : List Nat → List Nat
  | [] => [new]
  | x :: xs => if x = old then new :: x :: xs else x :: insertBefore old new xs

/-- Counts at which the incremental method orders its sample by a shuffle of its own. -/
def shuffledFrom : Nat := 50

/-- The draw `t` joins the sample, or its upper bound `top` in its stead when `t` was drawn before.
-/
def join (ordered : Bool) (chosen : List Nat) (top t : Nat) : List Nat :=
  if t ∈ chosen then
    if ordered then insertBefore t top chosen else chosen ++ [top]
  else chosen ++ [t]

/-- Draws from `0 .. top` for `count` successive tops. -/
def grow (ordered : Bool) : Nat → Nat → List Nat → Keystream → List Nat × Keystream
  | 0, _, chosen, k => (chosen, k)
  | count + 1, top, chosen, k =>
      let (t, k) := Draw.below .short (top + 1) k
      grow ordered count (top + 1) (join ordered chosen top t) k

/-- Swaps every place from `top` down to 1 with a random place not above it. -/
def shuffle : Nat → Array Nat → Keystream → Array Nat × Keystream
  | 0, xs, k => (xs, k)
  | top + 1, xs, k =>
      let (j, k) := Draw.below .short (top + 2) k
      shuffle top (xs.swapIfInBounds (top + 1) j) k

/-- One draw for each chosen number, and a shuffle behind it where the sample is not kept in order.
-/
def incremental (count total : Nat) (k : Keystream) : List Nat × Keystream :=
  let ordered := decide (count < shuffledFrom)
  let (chosen, k) := grow ordered count (total - count) [] k
  if ordered then (chosen, k)
  else
    let (xs, k) := shuffle (count - 1) chosen.toArray k
    (xs.toList, k)

/-- Swaps the places from `place` on, one after another, with a random place not before them. -/
def deal : Nat → Nat → Array Nat → Keystream → Array Nat × Keystream
  | 0, _, xs, k => (xs, k)
  | count + 1, place, xs, k =>
      let (j, k) := Draw.below .short (xs.size - place) k
      deal count (place + 1) (xs.swapIfInBounds place (place + j)) k

/-- The front of a partly shuffled table of all numbers. -/
def inPlace (count total : Nat) (k : Keystream) : List Nat × Keystream :=
  let (xs, k) := deal count 0 (Array.range total) k
  (xs.toList.take count, k)

def leastUnseen (seen : List Nat) : Nat :=
  ((List.range (seen.length + 1)).find? (· ∉ seen)).getD 0

/-- Draws numbers below `total` and skips the ones that were drawn before. -/
def pick (width : Width) (total : Nat) : Nat → List Nat → Keystream → List Nat × Keystream
  | 0, seen, k => (seen.reverse, k)
  | count + 1, seen, k =>
      let zone := Draw.multipleZone width.bits total
      let unseen (word : Nat) : Option Nat :=
        (Draw.ofWord? width.bits total zone word).filter (· ∉ seen)
      let (t, k) := k.search width unseen (fun _ => leastUnseen seen) Keystream.period
      pick width total count (t :: seen) k

def rejection (width : Width) (count total : Nat) (k : Keystream) : List Nat × Keystream :=
  pick width total count [] k

inductive Method where
  | incremental
  | inPlace
  | rejection (width : Width)
  deriving DecidableEq, Repr

/-- The cheapest method by a cost model in single precision. Small samples grow one by one unless
the table is not much larger than the sample squared; large ones are dealt from a table unless that
is far larger than the sample. Totals beyond short words leave rejection alone. -/
def Method.choose (count total : Nat) : Method :=
  let wide : Float32 := Float32.ofNat total
  let n : Float32 := Float32.ofNat count
  if UInt32.size ≤ total then .rejection .long
  else if count < 163 then
    let slope : Float32 := if total < 500000 then 1.6 else 8 / 45
    let offset : Float32 := if total < 500000 then 10 else 70 / 9
    if 11 < count ∧ wide < (offset + slope * n) * n then .inPlace else .incremental
  else
    let slope : Float32 := if total < 500000 then 270 else 330 / 9
    if wide < slope * n then .inPlace else .rejection .short

/-- So many distinct numbers below `total`, which is not less than the count. -/
def indices (count total : Nat) (k : Keystream) : List Nat × Keystream :=
  match Method.choose count total with
  | .incremental => incremental count total k
  | .inPlace => inPlace count total k
  | .rejection width => rejection width count total k

end QueryBench.Sample
