import QueryBench.Latency.Report
import QueryBench.Latency.Observation
import QueryBench.Query.Basic

/- What workers run queries with. -/
namespace QueryBench.Run
open Latency

structure Call where
  query : Query
  /-- The second call with the same query. -/
  warm : Bool
  deriving DecidableEq, Repr

structure Reply where
  /-- What was measured, or why the call failed. -/
  result : Except String (List Observation)
  /-- Nanoseconds from the beginning to the end of the call. -/
  takes : Nat := 0
  /-- The call first waits until all that was sent has been collected, and then moves the clock. -/
  alone : Bool := false
  printed : String := ""

/-- What a call reports. If nothing was measured, it is the time that the call took. -/
def Call.observations (c : Call) (measured : List Observation) (elapsed : Nat) : List Observation :=
  if measured.isEmpty then
    [{ label := c.query.label, value := seconds elapsed * 1000, warm := c.warm }]
  else measured.map fun o => { o with warm := c.warm }

/-- An executor for each worker. How a call goes may depend on the worker, on its earlier calls and
on the call. -/
structure Executor where
  start : Nat → Except String Unit
  call : Nat → List Call → Call → Reply

/-- Runs nothing, but may wait for some time, print the query, and say that there was no response.
-/
def Executor.noop (latency : Option Duration) (debug : Nat) (printResponses : Bool) : Executor where
  start _ := .ok ()
  call worker _ c :=
    let query := if 0 < debug then c.query.toText ++ "\n" else ""
    let response :=
      if printResponses then
        "worker " ++ toString worker ++ ": query " ++ toString c.query.id ++
          (if c.warm then " (warm)" else " (cold)") ++ ": no response, noop processor\n"
      else ""
    { result := .ok [], takes := (latency.getD ⟨0⟩).nanos, printed := query ++ response }

end QueryBench.Run
