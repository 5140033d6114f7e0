import QueryBench.Query.Basic
import QueryBench.Workload.Fleet

/- Databases that queries are written for. -/
namespace QueryBench

/-- A database by its tag: the kinds of query it can answer, an empty payload of its own, what it
draws for a query, and the way it puts a request into one. -/
structure Database where
  tag : String
  supports : Kind → Bool
  blank : Payload
  /-- The order of the draws is part of a workload. A database that says nothing draws nothing. -/
  draw : Kind → Workload.Drawing Request := fun _ => return .lastPoint
  fill : Kind → Request → Query → Query

namespace Database

/-- Replaces everything but the number of a query: the label of its kind, the label with the time of
the request as description, its only host as affinity, and the payload. -/
def fillWith (title : String) (render : Request → Payload) (kind : Kind) (request : Request)
    (q : Query) : Query :=
  let label := kind.label title
  { q with
    label
    description :=
      match request.timeText? with
      | some time => label ++ ": " ++ time
      | none => label
    affinity := request.onlyHost?
    payload := render request }

def emptyQuery (d : Database) : Query := { payload := d.blank }

/-- Draws a request and fills the query with it. Nothing is drawn for a kind that the database does
not support. -/
def generate (d : Database) (kind : Kind) (q : Query) : Workload.Drawing Query :=
  if d.supports kind then do
    let request ← d.draw kind
    return d.fill kind request q
  else throw (.unsupported kind.capability d.tag)

end Database

end QueryBench
