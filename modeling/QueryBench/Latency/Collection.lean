import QueryBench.Latency.Collector
import QueryBench.Latency.Ticker

/- A collector at work. Batches arrive and time passes; reports go out where a batch or the ticker
   asks for them, and the first one that cannot be written ends the work. -/
namespace QueryBench.Latency

structure Collection where
  collector : Collector
  ticker : Option Ticker
  interim : Sink
  now : Nat := 0
  failure? : Option Error := none

namespace Collection

inductive Event where
  | batch (observations : List Observation)
  /-- So many nanoseconds pass at once. -/
  | pass (nanos : Nat)

def start (s : Settings) (interim : Sink) : Collection :=
  let c : Collector := { settings := s }
  { collector := c.start 0
    ticker := s.reportingPeriod.map fun d => .start d.nanos 0
    interim }

def handle (s : Collection) (a : Collector.Arrival) : Collection :=
  match s.collector.handle s.now a s.interim with
  | (.ok (), collector, interim) => { s with collector, interim }
  | (.error e, collector, interim) => { s with collector, interim, failure? := some e }

/-- The ticker signals if its time has come. -/
def tick (s : Collection) : Collection :=
  match s.ticker with
  | none => s
  | some t => if t.due s.now then { s with ticker := some (t.fire s.now) }.handle .tick else s

def step (s : Collection) (e : Event) : Collection :=
  if s.failure?.isSome then s
  else
    match e with
    | .batch observations => s.handle (.batch observations)
    | .pass nanos => tick { s with now := s.now + nanos }

def finish (s : Collection) (summary : Sink) (d : Directory) :
    Except Error RunSummary × Collector × Sink × Directory :=
  match s.failure? with
  | some e => (.error e, s.collector, summary, d)
  | none => s.collector.finish s.now summary d

end Collection

end QueryBench.Latency
