/- Single latencies, as workers report them. -/
namespace QueryBench.Latency

structure Observation where
  label : String
  /-- Milliseconds. -/
  value : Float
  /-- Measured on the second of two calls with the same query. -/
  warm : Bool := false
  /-- A part of a larger answer. -/
  partialResult : Bool := false

/-- Only full answers of first calls count as queries. -/
def Observation.counted (o : Observation) : Bool := !o.warm && !o.partialResult

/-- How many queries a batch counts for. -/
def counted (batch : List Observation) : Nat := batch.countP Observation.counted

end QueryBench.Latency
