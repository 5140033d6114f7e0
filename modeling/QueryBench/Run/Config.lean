import QueryBench.Decimal.Shortest
import QueryBench.Json
import QueryBench.Latency.Settings
import QueryBench.Run.Routing

/- The settings of a run, and which of them fit together. -/
namespace QueryBench.Run

structure Config extends Latency.Settings where
  /-- Queries with equal affinity go to the same worker. -/
  hashWorkers : Bool := false
  /-- How much executors tell, from 0 to 4. -/
  debug : Nat := 0
  printResponses : Bool := false
  /-- Where the settings and the summary go at the end. -/
  resultsFile : Option String := none

namespace Config

def routing (c : Config) : Routing := .ofHashed c.hashWorkers

inductive Error where
  | noWorkers
  | burnInExceedsLimit (burnIn limit : Nat)
  | debugLevel (level : Nat)
  | invalidPercentile (p : Float)

def Error.message : Error → String
  | .noWorkers => "number of workers must be greater than 0"
  | .burnInExceedsLimit burnIn limit =>
      "burn-in (" ++ toString burnIn ++ ") must not be larger than the query limit (" ++
        toString limit ++ ")"
  | .debugLevel level => "debug level must be between 0 and 4; got " ++ toString level
  | .invalidPercentile p => "percentiles must be in (0, 100]; got " ++ Decimal.plain p

def maxDebug : Nat := 4

def validPercentile (p : Float) : Bool := 0 < p && p ≤ 100

def check (c : Config) : Except Error Unit :=
  if c.workers = 0 then .error .noWorkers
  else if 0 < c.limit ∧ c.limit < c.burnIn then .error (.burnInExceedsLimit c.burnIn c.limit)
  else if maxDebug < c.debug then .error (.debugLevel c.debug)
  else
    match c.percentiles.find? fun p => !validPercentile p with
    | some p => .error (.invalidPercentile p)
    | none => .ok ()

def durationJson (d : Duration) : Json :=
  .obj [("secs", .nat (d.nanos / nanosPerSecond)), ("nanos", .nat (d.nanos % nanosPerSecond))]

def toJson (c : Config) : Json :=
  let optional {α : Type} (f : α → Json) (a : Option α) : Json := (a.map f).getD .null
  .obj
    [("workers", .nat c.workers), ("limit", .nat c.limit), ("burn_in", .nat c.burnIn),
      ("print_interval", .nat c.printInterval),
      ("reporting_period", optional durationJson c.reportingPeriod),
      ("prewarm_queries", .bool c.prewarm), ("hash_workers", .bool c.hashWorkers),
      ("debug", .nat c.debug), ("print_responses", .bool c.printResponses),
      ("percentiles", .arr (c.percentiles.map .float)),
      ("hdr_latencies_file", optional .str c.latenciesFile),
      ("results_file", optional .str c.resultsFile)]

end Config

end QueryBench.Run
