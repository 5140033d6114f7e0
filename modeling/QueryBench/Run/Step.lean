import QueryBench.Run.State

/- How a run moves. Its parts move one at a time, and a part that cannot move waits; any order in
   which they move is a run. -/
namespace QueryBench.Run
open Latency

inductive Actor where
  | scanner
  | worker (number : Nat)
  | collector
  | ticker
  | clock (now : Nat)
  | joinScan
  | joinWorker (number : Nat)
  | complete
  deriving DecidableEq, Repr

/-- How many batches are sent before senders wait. -/
def maxPending : Nat := 10000

namespace State

/-- The scan reads a query, or hands the one that it has to the workers as soon as there is room. It
ends early where nobody takes queries any more. -/
def scan? (c : Config) (s : State) : Option State :=
  match s.scanner with
  | .reading scan =>
      some { s with scanner := match scan.step with
        | .hand query channel after => .handing query channel scan after
        | .finished => .finished scan.scanned
        | .failed e => .failed e }
  | .handing query channel before after =>
      if s.abandoned c channel then some { s with scanner := .finished before.scanned }
      else
        let queued := (s.channels[channel]?).getD []
        if queued.length < before.routing.room c.workers then
          some { s.setChannel channel (queued ++ [query]) with scanner := .reading after }
        else none
  | _ => none

def enter (x : Executor) (s : State) (number : Nat) (w : Worker) (call : Call)
    (batch : List Observation) : State :=
  let reply := x.call number w.calls call
  let s := { s with printed := s.printed ++ reply.printed }
  s.setWorker number
    { w with state := .entering call reply s.clock batch, calls := w.calls ++ [call] }

/-- The end of a call: the latencies of both calls with a query are sent as one batch. -/
def leave (c : Config) (x : Executor) (s : State) (number : Nat) (w : Worker) (call : Call)
    (reply : Reply) (started : Nat) (batch : List Observation) : State :=
  match reply.result with
  | .error cause =>
      s.setWorker number { w with state := .failed (.execution number call.query.label cause) }
  | .ok measured =>
      let batch := batch ++ call.observations measured (s.clock - started)
      if c.prewarm ∧ ¬ call.warm then s.enter x number w ⟨call.query, true⟩ batch
      else s.setWorker number { w with state := .sending batch }

/-- A worker takes a query, calls its executor once or twice, and sends what was measured. -/
def work? (c : Config) (x : Executor) (s : State) (number : Nat) : Option State :=
  match s.workers[number]? with
  | none => none
  | some w =>
      match w.state with
      | .starting =>
          some <| s.setWorker number <| match x.start number with
            | .ok () => { w with state := .waiting }
            | .error cause => { w with state := .failed (.executorStart number cause) }
      | .waiting =>
          let channel := c.routing.channelOf number
          match (s.channels[channel]?).getD [] with
          | query :: rest => some ((s.setChannel channel rest).enter x number w ⟨query, false⟩ [])
          | [] =>
              if s.scanEnded then some (s.setWorker number { w with state := .finished }) else none
      | .entering call reply started batch =>
          if reply.alone then
            if s.pending.isEmpty then
              let clock := s.clock + reply.takes
              some ({ s with clock }.setWorker number
                { w with state := .leaving call reply started clock batch })
            else none
          else
            let finish :=
              if reply.takes = 0 then s.clock else Ticker.noticed (s.clock + reply.takes)
            some (s.setWorker number { w with state := .leaving call reply started finish batch })
      | .leaving call reply started finish batch =>
          if finish ≤ s.clock then some (s.leave c x number w call reply started batch) else none
      | .sending batch =>
          if s.pending.length < maxPending then
            let s := { s with pending := s.pending ++ [batch] }
            some (s.setWorker number { w with state := .waiting })
          else none
      | _ => none

/-- Takes the outcome of a collector's work over. A report that cannot be written ends the run. -/
def afterCollecting (s : State) : Collector.Reported → State
  | (.ok (), collector, interim) => { s with collector, interim }
  | (.error e, collector, interim) => { s with collector, interim }.fail (.collection e)

/-- The collector takes the next batch. Once all workers have ended and no batch is left it
finishes. -/
def collect? (s : State) : Option State :=
  match s.pending with
  | batch :: rest =>
      let reported := s.collector.receive s.clock batch s.interim
      some ({ s with pending := rest }.afterCollecting reported)
  | [] =>
      if s.workers.all Worker.ended && s.collected.isNone then
        match s.collector.finish s.clock s.summary s.directory with
        | (.ok r, collector, summary, directory) =>
            some { s with collector, summary, directory, collected := some r }
        | (.error e, collector, summary, directory) =>
            some ({ s with collector, summary, directory }.fail (.collection e))
      else none

def tick? (s : State) : Option State :=
  match s.ticker with
  | some t =>
      if t.due s.clock && s.collected.isNone then
        some ({ s with ticker := some (t.fire s.clock) }.afterCollecting
          (s.collector.tick s.clock s.interim))
      else none
  | none => none

/-- Time passes. Signals of the ticker go by unnoticed while there is nothing to report. -/
def pass? (s : State) (now : Nat) : Option State :=
  if s.clock < now then
    let ticker := if s.collector.hasNews then s.ticker else s.ticker.map (·.pass now)
    some { s with clock := now, ticker }
  else none

def joinScan? (s : State) : Option State :=
  if s.scanJoined then none
  else
    match s.scanner with
    | .finished _ => some { s with scanJoined := true, phase := .draining }
    | .failed e => some (s.fail (.decode e))
    | _ => none

/-- The runner learns that a worker has ended. The first failure that it learns of ends the run. -/
def joinWorker? (s : State) (number : Nat) : Option State :=
  match s.workers[number]? with
  | none => none
  | some w =>
      if w.joined then none
      else
        match w.state with
        | .finished => some (s.setWorker number { w with joined := true })
        | .failed e => some (s.fail e)
        | _ => none

def resultsText (c : Config) (r : RunSummary) : String :=
  (Json.obj [("config", c.toJson), ("summary", r.toJson)]).pretty 0

def complete? (c : Config) (s : State) : Option State :=
  match s.collected with
  | some r =>
      if s.scanJoined && s.workers.all Worker.joined then
        let s := { s with phase := .done }
        match c.resultsFile with
        | none => some { s with result := some (.ok r) }
        | some path =>
            match s.directory.write path (Text.bytes (resultsText c r)) with
            | (.ok (), directory) => some { s with directory, result := some (.ok r) }
            | (.error fault, directory) =>
                some ({ s with directory }.fail (.resultsFile path fault))
      else none
  | none => none

/-- The state after an actor has moved, if it can. Nobody moves once the run is over. -/
def step? (c : Config) (x : Executor) (s : State) (a : Actor) : Option State :=
  if s.result.isSome then none
  else
    match a with
    | .scanner => s.scan? c
    | .worker number => s.work? c x number
    | .collector => s.collect?
    | .ticker => s.tick?
    | .clock now => s.pass? now
    | .joinScan => s.joinScan?
    | .joinWorker number => s.joinWorker? number
    | .complete => s.complete? c

end State

end QueryBench.Run
