import QueryBench.Decimal.Binary64
import QueryBench.Table

/- Latencies in microseconds, counted in buckets that are at most 0.1 % wide. Below 2048 a bucket
   holds one value; from 2048 on the width doubles whenever the value does. -/
namespace QueryBench.Latency

namespace Bucket

/-- How many values share the bucket of `v`. -/
def width (v : Nat) : Nat := 1 <<< (v.log2 - 10)

def lowest (v : Nat) : Nat := v / width v * width v

def highest (b : Nat) : Nat := b + width b - 1

def median (b : Nat) : Nat := b + width b / 2

/-- The greatest value that has a bucket. -/
def limit : Nat := 4294967295

/-- One hour, which stands for all that is beyond the buckets. -/
def hour : Nat := 3600000000

end Bucket

/-- How often each bucket was met, keyed by its least value. -/
structure Histogram where
  buckets : Table Nat Nat := []
  deriving DecidableEq, Repr

def micros (v : Float) : Nat := (Binary64.ofFloat (v * 1000)).toNatUpTo (UInt64.size - 1)

namespace Histogram

def record (h : Histogram) (v : Nat) : Histogram :=
  ⟨h.buckets.count 1 (Bucket.lowest (if v ≤ Bucket.limit then v else Bucket.hour))⟩

def total (h : Histogram) : Nat := h.buckets.total

/-- The first bucket at which the running count comes up to `rank`. -/
def reach? (rank : Nat) : Table Nat Nat → Option Nat
  | [] => none
  | (b, n) :: rest => if rank ≤ n then some b else reach? (rank - n) rest

/-- The rank that a share of all values stands for, which is never below the first. -/
def rank (share : Float) (total : Nat) : Nat :=
  max 1 ((Binary64.ofFloat (share * Float.ofNat total)).ceilUpTo (UInt64.size - 1))

/-- The value at a percentile: the greatest of its bucket, or the least for percentile zero. -/
def percentile (h : Histogram) (p : Float) : Nat :=
  let share := p / 100
  let share := if 1 < share then 1 else share
  match reach? (rank share h.total) h.buckets with
  | none => 0
  | some b => if share == 0 then b else Bucket.highest b

def greatest (h : Histogram) : Nat :=
  match h.buckets.getLast? with
  | none => 0
  | some (b, _) => Bucket.highest b

def mean (h : Histogram) : Float :=
  h.buckets.foldl (fun sum (b, n) =>
    sum + Float.ofNat (Bucket.median b) * Float.ofNat n / Float.ofNat h.total) 0

def deviation (h : Histogram) : Float :=
  let mean := h.mean
  let squares := h.buckets.foldl (fun sum (b, n) =>
    let distance := Float.ofNat (Bucket.median b) - mean
    sum + distance * distance * Float.ofNat n) 0
  if h.buckets = [] then 0 else (squares / Float.ofNat h.total).sqrt

end Histogram

end QueryBench.Latency
