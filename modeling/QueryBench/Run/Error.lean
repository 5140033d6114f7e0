import QueryBench.Latency.Collector
import QueryBench.Run.Config
import QueryBench.Stream.Frame

/- Why a run fails. -/
namespace QueryBench.Run

inductive Error where
  | config (cause : Config.Error)
  | decode (cause : Stream.Error)
  | executorStart (worker : Nat) (cause : String)
  | execution (worker : Nat) (label cause : String)
  | collection (cause : Latency.Error)
  | resultsFile (path : String) (fault : Fault)

def Error.message : Error → String
  | .config cause => "invalid runner configuration: " ++ cause.message
  | .decode cause => "failed to read queries: " ++ cause.message
  | .executorStart worker cause =>
      "worker " ++ toString worker ++ " failed to initialize its query processor: " ++ cause
  | .execution worker label cause =>
      "worker " ++ toString worker ++ " failed to execute query '" ++ label ++ "': " ++ cause
  | .collection cause => cause.message
  | .resultsFile path fault => "failed to write results file " ++ path ++ ": " ++ fault.message

end QueryBench.Run
