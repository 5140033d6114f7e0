import QueryBench.Hash.Xx64
import QueryBench.Query.Basic
import QueryBench.Text.Utf8

/- Which channel a query is handed to. All workers share one channel, or every worker has its own;
   then the affinity of a query picks the worker, and queries without one go round. -/
namespace QueryBench.Run

inductive Routing where
  | shared
  /-- Queries without affinity go to the workers in turn, the next one to `next`. -/
  | hashed (next : Nat)
  deriving DecidableEq, Repr

/-- The worker for an affinity, the same in every run. -/
def workerOfKey (key : String) (workers : Nat) : Nat :=
  (Xx64.hash 0 (Text.bytes key)).toNat % workers

namespace Routing

def ofHashed (hashed : Bool) : Routing := if hashed then .hashed 0 else .shared

def channels (workers : Nat) : Routing → Nat
  | .shared => 1
  | .hashed _ => workers

def room (workers : Nat) : Routing → Nat
  | .shared => workers
  | .hashed _ => 1

def channelOf (worker : Nat) : Routing → Nat
  | .shared => 0
  | .hashed _ => worker

/-- The channel for a query, and the routing of the queries after it. -/
def route (workers : Nat) (q : Query) : Routing → Nat × Routing
  | .shared => (0, .shared)
  | .hashed next =>
      match q.affinity with
      | some key => (workerOfKey key workers, .hashed next)
      | none => (next, .hashed ((next + 1) % workers))

end Routing

end QueryBench.Run
