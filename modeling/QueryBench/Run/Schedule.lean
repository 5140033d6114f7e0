import QueryBench.Run.Step

/- One order for a run. The runner looks at its parts as soon as one of them can go on: the scan and
   the workers that it joins, and the collector; each look begins with another one. Queries are read
   when no worker can go on, and time passes when nothing else can happen. -/
namespace QueryBench.Run
open Latency

namespace State

/-- How often the runner has looked at its parts, and whether it is about it. The look at the start of
a run finds nothing that can go on. -/
structure Looks where
  count : Nat := 1
  looking : Bool := false
  deriving DecidableEq, Repr

namespace Looks

/-- The parts of the runner, the one that is due first. -/
def parts (l : Looks) (workers : Nat) : List Actor :=
  let joins := (List.range workers).map .joinWorker
  ([[.joinScan], joins, [.collector, .ticker]].rotateLeft l.count).flatten

/-- A look is over when somebody else moves. -/
def after (l : Looks) : Actor → Looks
  | .joinScan | .joinWorker _ | .collector | .ticker => { l with looking := true }
  | .scanner | .worker _ | .clock _ | .complete =>
      if l.looking then ⟨l.count + 1, false⟩ else l

end Looks

/-- Who may move at an instant, the first that can move first. -/
def actors (s : State) (l : Looks) : List Actor :=
  l.parts s.workers.length ++ (List.range s.workers.length).map .worker ++ [.scanner, .complete]

/-- When the call of a worker ends, if it is on its way. -/
def wake? (w : Worker) : Option Nat :=
  match w.state with
  | .leaving _ _ _ finish _ => some finish
  | _ => none

/-- The instant that everyone waits for: the end of a call, or the next report. -/
def nextInstant? (s : State) : Option Nat :=
  match (s.workers.filterMap wake?).min? with
  | none => none
  | some wake =>
      match s.ticker with
      | some t =>
          if s.collector.hasNews then some (min wake (Ticker.noticed t.deadline)) else some wake
      | none => some wake

/-- The one who moves next. -/
def mover? (c : Config) (x : Executor) (l : Looks) (s : State) : Option Actor :=
  match (s.actors l).find? fun a => (s.step? c x a).isSome with
  | some a => some a
  | none => s.nextInstant?.map .clock

def scanned? (s : State) : Option Nat :=
  match s.scanner with
  | .finished n => some n
  | _ => none

def goFrom (c : Config) (x : Executor) : Nat → Looks → State → State
  | 0, _, s => s
  | fuel + 1, l, s =>
      match s.mover? c x l with
      | none => s
      | some a =>
          match s.step? c x a with
          | none => s
          | some s => goFrom c x fuel (l.after a) s

/-- So many moves of a run that begins. -/
def go (c : Config) (x : Executor) (fuel : Nat) (s : State) : State := goFrom c x fuel {} s

end State

/-- A run that has come to its end, and what it leaves. A run whose input is foreign was never
started. -/
structure Outcome where
  phase : Phase
  result : Option (Except Error RunSummary)
  interim : Sink
  summary : Sink
  directory : Directory
  /-- How many queries were handed out, if the scan came to its end. -/
  scanned : Option Nat := none
  calls : List (List Call) := []
  printed : String := ""

/-- More moves than a run of an input of so many bytes can have. -/
def moves (c : Config) (bytes : Nat) : Nat := 32 * (bytes + c.workers + 1)

def run (c : Config) (x : Executor) (input : Source) (interim summary : Sink)
    (directory : Directory) : Outcome :=
  match State.start c input interim summary directory with
  | .error e => { phase := .created, result := some (.error e), interim, summary, directory }
  | .ok s =>
      let s := s.go c x (moves c (Source.content input.deliveries).length)
      { phase := s.phase
        result := s.result
        interim := s.interim
        summary := s.summary
        directory := s.directory
        scanned := s.scanned?
        calls := s.workers.map (·.calls)
        printed := s.printed }

/-- Runs the queries of an input if the settings fit together. -/
def checkedRun (c : Config) (x : Executor) (input : Source) (interim summary : Sink)
    (directory : Directory) : Outcome :=
  match c.check with
  | .error e =>
      { phase := .created, result := some (.error (.config e)), interim, summary, directory }
  | .ok () => run c x input interim summary directory

end QueryBench.Run
