import QueryBench.Workload.Database

/- TimescaleDB: SQL statements against a hypertable of readings with a column for the host. -/
namespace QueryBench.Timescale

/-- The expression that cuts time into minutes or hours. -/
structure Buckets where
  minute : String
  hour : String
  deriving DecidableEq, Repr

def buckets (useTimeBucket : Bool) : Buckets :=
  if useTimeBucket then ⟨"time_bucket('60 seconds', time)", "time_bucket('3600 seconds', time)"⟩
  else ⟨"date_trunc('minute', time)", "date_trunc('hour', time)"⟩

def quoted (s : String) : String := "'" ++ s ++ "'"

def sqlTime (nanos : Int) : String := quoted (Moment.ofNanos nanos).toSqlText

def hostClause (hosts : List String) : String :=
  "hostname IN (" ++ String.intercalate "," (hosts.map quoted) ++ ")"

def timeClause (window : Interval) : String :=
  "time >= " ++ sqlTime window.start ++ " AND time < " ++ sqlTime window.finish

def columns (f : String → String) (metrics : List String) : String :=
  String.intercalate ", " (metrics.map f)

def highest (metric : String) : String := "max(" ++ metric ++ ") as max_" ++ metric

def meanName (metric : String) : String := "mean_" ++ metric

def mean (metric : String) : String := "avg(" ++ metric ++ ") as " ++ meanName metric

def statement (b : Buckets) : Request → String
  | .singleGroupby metrics hosts window =>
      "SELECT " ++ b.minute ++ " AS minute,\n        " ++ columns highest metrics ++
        "\n        FROM cpu\n        WHERE " ++ hostClause hosts ++ " AND " ++ timeClause window ++
        "\n        GROUP BY minute ORDER BY minute ASC"
  | .maxAll hosts window =>
      "SELECT " ++ b.hour ++ " AS hour,\n        " ++ columns highest Metric.all ++
        "\n        FROM cpu\n        WHERE " ++ hostClause hosts ++ " AND " ++ timeClause window ++
        "\n        GROUP BY hour ORDER BY hour"
  | .doubleGroupby metrics window =>
      "WITH cpu_avg AS (\n          SELECT " ++ b.hour ++ " as hour, hostname,\n          " ++
        columns mean metrics ++ "\n          FROM cpu\n          WHERE " ++ timeClause window ++
        "\n          GROUP BY 1, 2\n        )\n        SELECT hour, hostname, " ++
        columns meanName metrics ++
        "\n        FROM cpu_avg\n        ORDER BY hour, hostname"
  | .highCpu hosts window =>
      "SELECT * FROM cpu WHERE usage_user > 90.0 and " ++ timeClause window ++
        if hosts = [] then "" else " AND " ++ hostClause hosts
  | .lastPoint => "SELECT DISTINCT ON (hostname) * FROM cpu ORDER BY hostname, time DESC"
  | .orderByLimit window =>
      "SELECT " ++ b.minute ++ " AS minute, max(usage_user)\n        FROM cpu\n" ++
        "        WHERE time < " ++ sqlTime window.finish ++
        "\n        GROUP BY minute\n        ORDER BY minute DESC\n        LIMIT 5"

open Workload in
/-- The choices of a query, in the order in which they are made. -/
def draw : Kind → Drawing Request
  | .singleGroupby count hosts hours => do
      let window ← drawWindow (.ofHours hours)
      let metrics ← metrics count
      let hosts ← drawHosts hosts
      return .singleGroupby metrics hosts window
  | .maxAll hosts => do
      let window ← drawWindow Kind.maxAllWindow
      let hosts ← drawHosts hosts
      return .maxAll hosts window
  | .doubleGroupby count => do
      let metrics ← metrics count
      let window ← drawWindow Kind.doubleGroupbyWindow
      return .doubleGroupby metrics window
  | .highCpu hosts => do
      let window ← drawWindow Kind.highCpuWindow
      let hosts ← if hosts = 0 then pure [] else drawHosts hosts
      return .highCpu hosts window
  | .lastPoint => return .lastPoint
  | .orderByLimit => do
      let window ← drawWindow Kind.orderByLimitWindow
      return .orderByLimit window

def render (useTimeBucket : Bool) (request : Request) : Payload :=
  .sql "cpu" (statement (buckets useTimeBucket) request)

def title : String := "TimescaleDB"

def database (useTimeBucket : Bool) : Database where
  tag := "timescaledb"
  supports _ := true
  blank := .sql "" ""
  draw := draw
  fill := Database.fillWith title (render useTimeBucket)

end QueryBench.Timescale
