/- Benchmark queries: what the generator writes, the stream carries and the workers execute. -/
namespace QueryBench

/-- The part of a query that only its database understands. -/
inductive Payload where
  | empty
  | sql (hypertable statement : String)
  | siri (statement : String)
  deriving DecidableEq, Repr

namespace Payload

def cleared : Payload → Payload
  | .empty => .empty
  | .sql _ _ => .sql "" ""
  | .siri _ => .siri ""

def toText : Payload → String
  | .empty => "<empty>"
  | .sql hypertable statement => "Hypertable: " ++ hypertable ++ "\nQuery: " ++ statement
  | .siri statement => "query: " ++ statement

end Payload

structure Query where
  id : UInt64 := 0
  label : String := ""
  description : String := ""
  /-- The entity that the query asks about, if it is a single one. -/
  affinity : Option String := none
  payload : Payload := .empty
  deriving DecidableEq, Repr

namespace Query

def cleared (q : Query) : Query := { payload := q.payload.cleared }

def toText (q : Query) : String :=
  "HumanLabel: " ++ q.label ++ "\nHumanDescription: " ++ q.description ++ "\n" ++ q.payload.toText

end Query

end QueryBench
