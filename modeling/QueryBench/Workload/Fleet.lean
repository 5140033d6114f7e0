import QueryBench.Time.Interval
import QueryBench.Workload.Kind
import QueryBench.Workload.Population

/- A population of hosts over a range of time, and what a query of each kind draws from it. -/
namespace QueryBench

structure Fleet where
  interval : Interval
  population : Population
  deriving DecidableEq, Repr

/-- What a query asks for: the choices that its kind leaves to chance, and its metrics. -/
inductive Request where
  | singleGroupby (metrics hosts : List String) (window : Interval)
  | maxAll (hosts : List String) (window : Interval)
  | doubleGroupby (metrics : List String) (window : Interval)
  | highCpu (hosts : List String) (window : Interval)
  | lastPoint
  | orderByLimit (window : Interval)
  deriving DecidableEq, Repr

namespace Request

def hosts : Request → List String
  | .singleGroupby _ hosts _ | .maxAll hosts _ | .highCpu hosts _ => hosts
  | .doubleGroupby _ _ | .lastPoint | .orderByLimit _ => []

/-- The time that a description shows. -/
def timeText? : Request → Option String
  | .singleGroupby _ _ window | .maxAll _ window | .doubleGroupby _ window | .highCpu _ window =>
      some window.startText
  | .orderByLimit window => some window.finishText
  | .lastPoint => none

def onlyHost? (r : Request) : Option String :=
  match r.hosts with
  | [host] => some host
  | _ => none

end Request

namespace Workload

inductive Error where
  | metrics (e : Metric.Error)
  | unknownKind (tag : String)
  | unsupported (capability database : String)
  | sampling (e : Sample.Error)
  | interval (e : Interval.Error)
  deriving DecidableEq, Repr

def Error.message : Error → String
  | .metrics e => e.message
  | .unknownKind tag =>
      "unknown query type '" ++ tag ++ "', run `tsbench query-types` for the supported ones"
  | .unsupported capability database =>
      "backend " ++ database ++ " does not implement " ++ capability
  | .sampling e => e.message
  | .interval e => e.message

def kindOfTag (tag : String) : Except Error Kind :=
  match Kind.ofTag? tag with
  | some kind => .ok kind
  | none => .error (.unknownKind tag)

/-- A computation that draws from a fleet. What it drew stays drawn when it fails. -/
abbrev Drawing := ExceptT Error (StateM Fleet)

def drawWindow (length : Duration) : Drawing Interval := fun fleet =>
  let (window, random) := fleet.interval.randomWindow length fleet.population.random
  (window.mapError .interval,
    { fleet with population := { fleet.population with random } })

def drawHosts (count : Nat) : Drawing (List String) := fun fleet =>
  let (hosts, population) := fleet.population.hosts count
  (hosts.mapError .sampling, { fleet with population })

def metrics (count : Nat) : Drawing (List String) := fun fleet =>
  ((Metric.first count).mapError .metrics, fleet)

end Workload

end QueryBench
