import QueryBench.Bytes.Directory
import QueryBench.Bytes.Sink
import QueryBench.Latency.Ladder
import QueryBench.Latency.Observation
import QueryBench.Latency.Report

/- Collecting the latencies of a run. Batches that come during burn-in are left out of the groups;
   the others go into the group of their label, into that of all queries and, where queries are
   called twice, into that of their call. Times are nanoseconds on the clock of the run. -/
namespace QueryBench.Latency

inductive Phase where
  | idle
  | collecting
  | reporting
  | finalizing
  | done
  deriving DecidableEq, Repr

inductive Error where
  | report (fault : Fault)
  | latenciesFile (path : String) (fault : Fault)
  deriving DecidableEq, Repr

def Error.message : Error → String
  | .report fault => "failed to write report: " ++ fault.message
  | .latenciesFile path fault =>
      "failed to write HDR latencies to " ++ path ++ ": " ++ fault.message

def allQueries : String := "all-queries"

def coldQueries : String := "cold-queries"

def warmQueries : String := "warm-queries"

/-- Pushes a value into the group of a label, which is there from its first value on. -/
def record (label : String) (value : Float) (gs : Groups) : Groups :=
  gs.alter label fun old => (old.getD {}).push value

def observe (prewarm : Bool) (o : Observation) (gs : Groups) : Groups :=
  let gs := record allQueries o.value (record o.label o.value gs)
  if prewarm then record (if o.warm then warmQueries else coldQueries) o.value gs else gs

structure RunSummary where
  queries : Nat
  burnedIn : Nat
  workers : Nat
  wallClock : Float
  overallRate : Float
  groups : List (String × Group.Summary)

def RunSummary.toJson (s : RunSummary) : Json :=
  .obj
    [("queries", .nat s.queries), ("burned_in", .nat s.burnedIn), ("workers", .nat s.workers),
      ("wall_clock_secs", .float s.wallClock), ("overall_rate", .float s.overallRate),
      ("groups", .obj (s.groups.map fun (label, g) => (label, g.toJson)))]

structure Collector where
  settings : Settings
  phase : Phase := .idle
  groups : Groups := []
  /-- Queries counted so far, with those of burn-in. -/
  queries : Nat := 0
  burnedIn : Nat := 0
  started : Nat := 0
  lastReport : Nat := 0
  lastReportQueries : Nat := 0

namespace Collector

/-- How an operation ends, the collector after it, and what was written. -/
abbrev Reported := Except Error Unit × Collector × Sink

def start (c : Collector) (now : Nat) : Collector :=
  { c with phase := .collecting, started := now, lastReport := now }

def burningIn (c : Collector) : Bool := c.burnedIn < c.settings.burnIn

def interimText (c : Collector) (now : Nat) : String :=
  Report.interim c.settings c.queries
    (rate (c.queries - c.lastReportQueries) (now - c.lastReport)) (rate c.queries (now - c.started))
    c.groups

def interim (c : Collector) (now : Nat) (sink : Sink) : Reported :=
  match sink.put (c.interimText now) with
  | (.error fault, sink) => (.error (.report fault), { c with phase := .reporting }, sink)
  | (.ok (), sink) =>
      let c := { c with phase := .collecting, lastReport := now, lastReportQueries := c.queries }
      (.ok (), c, sink)

/-- The number of queries asks for a report, unless the run is over at it. -/
def reportDue (c : Collector) : Bool :=
  0 < c.settings.printInterval && c.queries % c.settings.printInterval = 0 &&
    (c.settings.limit = 0 || c.queries < c.settings.limit)

def take (c : Collector) (now : Nat) (o : Observation) (sink : Sink) : Reported :=
  let c := { c with groups := observe c.settings.prewarm o c.groups }
  if o.counted then
    let c := { c with queries := c.queries + 1 }
    if c.reportDue then c.interim now sink else (.ok (), c, sink)
  else (.ok (), c, sink)

/-- One observation after the other, up to a report that cannot be written. -/
def takeAll (c : Collector) (now : Nat) (sink : Sink) : List Observation → Reported
  | [] => (.ok (), c, sink)
  | o :: rest =>
      match c.take now o sink with
      | (.ok (), c, sink) => takeAll c now sink rest
      | failed => failed

/-- A batch of the burn-in is counted and not kept. The one that completes it is the start of the
measurement. -/
def burn (c : Collector) (now : Nat) (batch : List Observation) (sink : Sink) : Reported :=
  let c := { c with burnedIn := c.burnedIn + counted batch, queries := c.queries + counted batch }
  if c.burningIn then (.ok (), c, sink)
  else
    let c := { c with lastReport := now, lastReportQueries := c.queries }
    match sink.writeText (Report.burnInComplete c.settings c.burnedIn) with
    | (.error fault, sink) => (.error (.report fault), c, sink)
    | (.ok (), sink) => (.ok (), c, sink)

def receive (c : Collector) (now : Nat) (batch : List Observation) (sink : Sink) : Reported :=
  if c.burningIn then c.burn now batch sink else c.takeAll now sink batch

def hasNews (c : Collector) : Bool := c.lastReportQueries < c.queries && !c.burningIn

def tick (c : Collector) (now : Nat) (sink : Sink) : Reported :=
  if c.hasNews then c.interim now sink else (.ok (), c, sink)

inductive Arrival where
  | batch (observations : List Observation)
  | tick

def handle (c : Collector) (now : Nat) (a : Arrival) (sink : Sink) : Reported :=
  match a with
  | .batch observations => c.receive now observations sink
  | .tick => c.tick now sink

def summary (c : Collector) (now : Nat) : RunSummary :=
  { queries := c.queries
    burnedIn := c.burnedIn
    workers := c.settings.workers
    wallClock := seconds (now - c.started)
    overallRate := rate c.queries (now - c.started)
    groups := c.groups.map fun (label, g) => (label, g.summary c.settings.percentiles) }

def finalText (c : Collector) (now : Nat) : String :=
  Report.final c.settings c.queries (now - c.started) c.groups

def ladderText (c : Collector) : String :=
  Ladder.toText ((c.groups.find? allQueries).getD {}).histogram

def writeLatencies (c : Collector) (d : Directory) : Except Error Unit × Directory :=
  match c.settings.latenciesFile with
  | none => (.ok (), d)
  | some path =>
      match d.write path (Text.bytes c.ladderText) with
      | (.error fault, d) => (.error (.latenciesFile path fault), d)
      | (.ok (), d) => (.ok (), d)

/-- Everything has come: the final report, the ladder, and the summary. -/
def finish (c : Collector) (now : Nat) (sink : Sink) (d : Directory) :
    Except Error RunSummary × Collector × Sink × Directory :=
  let c := { c with phase := .finalizing }
  match sink.put (c.finalText now) with
  | (.error fault, sink) => (.error (.report fault), c, sink, d)
  | (.ok (), sink) =>
      match c.writeLatencies d with
      | (.error e, d) => (.error e, c, sink, d)
      | (.ok (), d) => (.ok (c.summary now), { c with phase := .done }, sink, d)

end Collector

end QueryBench.Latency
