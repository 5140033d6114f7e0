import QueryBench.Workload.Database

/- SiriDB: statements over series that are named for metrics and grouped by host. There is no way to
   ask for the greatest few of a list, so one kind of query is left out. -/
namespace QueryBench.Siri

def union (names : List String) : String :=
  "(" ++ String.intercalate " | " (names.map fun n => "`" ++ n ++ "`") ++ ")"

def timeClause (window : Interval) : String :=
  " between '" ++ window.startText ++ "' and '" ++ window.finishText ++ "'"

def statement : Request → String
  | .singleGroupby metrics hosts window =>
      "select max(1m) from " ++ union metrics ++ " & " ++ union hosts ++ timeClause window
  | .maxAll hosts window =>
      "select max(1h) from " ++ union Metric.all ++ " & " ++ union hosts ++ timeClause window
  | .doubleGroupby metrics window =>
      "select mean(1h) from " ++ union metrics ++ timeClause window
  | .highCpu hosts window =>
      "select filter(> 90) from `usage_user`" ++
        (if hosts = [] then "" else " & " ++ union hosts) ++ timeClause window
  | .lastPoint | .orderByLimit _ => "select last() from " ++ union Metric.all

def render (request : Request) : Payload := .siri (statement request)

def title : String := "SiriDB"

def supports : Kind → Bool
  | .orderByLimit => false
  | _ => true

def tag : String := "siridb"

open Workload in
/-- The choices of a query, in the order in which they are made. -/
def draw : Kind → Drawing Request
  | .singleGroupby count hosts hours => do
      let window ← drawWindow (.ofHours hours)
      let metrics ← metrics count
      let hosts ← drawHosts hosts
      return .singleGroupby metrics hosts window
  | .maxAll hosts => do
      let window ← drawWindow Kind.maxAllWindow
      let hosts ← drawHosts hosts
      return .maxAll hosts window
  | .doubleGroupby count => do
      let metrics ← metrics count
      let window ← drawWindow Kind.doubleGroupbyWindow
      return .doubleGroupby metrics window
  | .highCpu hosts => do
      let window ← drawWindow Kind.highCpuWindow
      let hosts ← if hosts = 0 then pure [] else drawHosts hosts
      return .highCpu hosts window
  | .lastPoint => return .lastPoint
  | .orderByLimit => throw (.unsupported Kind.orderByLimit.capability tag)

def database : Database where
  tag := tag
  supports := supports
  blank := .siri ""
  draw := draw
  fill := Database.fillWith title render

end QueryBench.Siri
