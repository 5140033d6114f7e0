import QueryBench.Run.Routing
import QueryBench.Stream.Reader

/- Reading the queries of a run. They are numbered as they come, and nothing behind the limit is
   read. -/
namespace QueryBench.Run

structure Scan where
  reader : Stream.Reader
  /-- Zero is no limit. -/
  limit : Nat
  workers : Nat
  routing : Routing
  /-- How many queries have been handed out. -/
  scanned : Nat := 0
  deriving DecidableEq, Repr

namespace Scan

/-- What comes next: a query for a channel, and the scan once it is handed out; or the end. -/
inductive Step where
  | hand (query : Query) (channel : Nat) (after : Scan)
  | finished
  | failed (e : Stream.Error)

def step (s : Scan) : Step :=
  if 0 < s.limit ∧ s.limit ≤ s.scanned then .finished
  else
    match s.reader.next with
    | (.error e, _) => .failed e
    | (.ok none, _) => .finished
    | (.ok (some q), reader) =>
        let q := { q with id := UInt64.ofNat s.scanned }
        let (channel, routing) := s.routing.route s.workers q
        .hand q channel { s with reader, routing, scanned := s.scanned + 1 }

end Scan

end QueryBench.Run
