import QueryBench.Latency.Ticker
import QueryBench.Run.Error
import QueryBench.Run.Executor
import QueryBench.Run.Scan

/- What a run consists of while it goes on: the scan, the channels that queries wait in, the
   workers, the batches that were sent, the collector, and the outputs. -/
namespace QueryBench.Run
open Latency

inductive Phase where
  | created
  | running
  /-- Every query has been handed out. -/
  | draining
  | done
  deriving DecidableEq, Repr

inductive Scanner where
  | reading (scan : Scan)
  /-- A query waits for room in a channel; `after` is the scan once it has found some. -/
  | handing (query : Query) (channel : Nat) (before after : Scan)
  | finished (scanned : Nat)
  | failed (cause : Stream.Error)

inductive Worker.State where
  | starting
  | waiting
  /-- A call has begun, and waits if it wants to be alone. The latencies are those of the first of
  two calls. -/
  | entering (call : Call) (reply : Reply) (started : Nat) (batch : List Observation)
  /-- A call that ends at an instant. -/
  | leaving (call : Call) (reply : Reply) (started finish : Nat) (batch : List Observation)
  | sending (batch : List Observation)
  | finished
  | failed (cause : Error)

structure Worker where
  state : Worker.State := .starting
  calls : List Call := []
  joined : Bool := false

/-- A worker that has ended takes no queries and sends no latencies. -/
def Worker.ended (w : Worker) : Bool :=
  match w.state with
  | .finished | .failed _ => true
  | _ => false

structure State where
  phase : Phase := .running
  scanner : Scanner
  scanJoined : Bool := false
  channels : List (List Query)
  workers : List Worker
  /-- Batches that were sent and not collected yet. -/
  pending : List (List Observation) := []
  collector : Collector
  ticker : Option Ticker
  collected : Option RunSummary := none
  interim : Sink
  summary : Sink
  directory : Directory
  clock : Nat := 0
  printed : String := ""
  result : Option (Except Error RunSummary) := none

namespace State

def fail (s : State) (e : Error) : State := { s with result := some (.error e) }

def setWorker (s : State) (number : Nat) (w : Worker) : State :=
  { s with workers := s.workers.set number w }

def setChannel (s : State) (channel : Nat) (queries : List Query) : State :=
  { s with channels := s.channels.set channel queries }

/-- Whether every worker that takes queries from a channel has ended. -/
def abandoned (c : Config) (s : State) (channel : Nat) : Bool :=
  s.workers.zipIdx.all fun (w, number) => c.routing.channelOf number ≠ channel || w.ended

def scanEnded (s : State) : Bool :=
  match s.scanner with
  | .finished _ | .failed _ => true
  | _ => false

/-- Checks the identifier of the input; nothing is started for any other. -/
def start (c : Config) (input : Source) (interim summary : Sink) (directory : Directory) :
    Except Error State :=
  match Stream.Reader.start input with
  | .error e => .error (.decode e)
  | .ok reader =>
      let collector : Collector := { settings := c.toSettings }
      .ok
        { scanner :=
            .reading { reader, limit := c.limit, workers := c.workers, routing := c.routing }
          channels := List.replicate (c.routing.channels c.workers) []
          workers := List.replicate c.workers {}
          collector := collector.start 0
          ticker := c.reportingPeriod.map fun d => .start d.nanos 0
          interim
          summary
          directory }

end State

end QueryBench.Run
