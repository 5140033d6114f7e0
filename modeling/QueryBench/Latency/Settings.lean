import QueryBench.Time.Duration

/- What is left to the choice of whoever measures. -/
namespace QueryBench.Latency

structure Settings where
  workers : Nat := 1
  limit : Nat := 0
  burnIn : Nat := 0
  /-- Reports come after every so many queries; zero is never. -/
  printInterval : Nat := 0
  /-- Reports come whenever so much time has passed. -/
  reportingPeriod : Option Duration := none
  /-- Every query is called twice, and the two calls have groups of their own. -/
  prewarm : Bool := false
  percentiles : List Float := [50, 90, 95, 99]
  latenciesFile : Option String := none

end QueryBench.Latency
