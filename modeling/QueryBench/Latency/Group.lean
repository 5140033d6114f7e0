import QueryBench.Json
import QueryBench.Latency.Histogram
import QueryBench.Latency.Moments

/- What is kept of the latencies under one label, in milliseconds. -/
namespace QueryBench.Latency

structure Group where
  moments : Moments Float := .empty
  histogram : Histogram := {}

namespace Group

def push (g : Group) (v : Float) : Group :=
  ⟨g.moments.push v, g.histogram.record (micros v)⟩

def count (g : Group) : Nat := g.moments.count

def sum (g : Group) : Float := g.moments.sum

def mean (g : Group) : Float := g.moments.mean

def least (g : Group) : Float :=
  if g.count = 0 then 0 else g.moments.least?.getD (1 / 0)

def greatest (g : Group) : Float :=
  if g.count = 0 then 0 else g.moments.greatest?.getD (-1 / 0)

def deviation (g : Group) : Float := g.moments.variance.sqrt

def percentile (g : Group) (p : Float) : Float := Float.ofNat (g.histogram.percentile p) / 1000

end Group

/-- What a report says of a group; the percentiles come with their values. -/
structure Group.Summary where
  count : Nat
  least : Float
  greatest : Float
  mean : Float
  deviation : Float
  sum : Float
  percentiles : List (Float × Float)

def Group.summary (g : Group) (percentiles : List Float) : Summary :=
  { count := g.count
    least := g.least
    greatest := g.greatest
    mean := g.mean
    deviation := g.deviation
    sum := g.sum
    percentiles := percentiles.map fun p => (p, g.percentile p) }

def Group.Summary.toJson (s : Group.Summary) : Json :=
  .obj
    [("count", .nat s.count), ("min", .float s.least), ("max", .float s.greatest),
      ("mean", .float s.mean), ("stddev", .float s.deviation), ("sum", .float s.sum),
      ("percentiles", .arr (s.percentiles.map fun (p, v) =>
        .obj [("percentile", .float p), ("value", .float v)]))]

end QueryBench.Latency
