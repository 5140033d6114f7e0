import QueryBench.Time.Duration
import QueryBench.Workload.Metric

/- The kinds of query that a workload is made of, their tags and the labels of their queries. -/
namespace QueryBench

inductive Kind where
  /-- The highest readings of some hosts, minute by minute. -/
  | singleGroupby (metrics hosts hours : Nat)
  /-- The highest reading of every metric of some hosts, hour by hour. -/
  | maxAll (hosts : Nat)
  /-- The mean readings of all hosts, hour by hour and host by host. -/
  | doubleGroupby (metrics : Nat)
  /-- The readings above a threshold, of all hosts where `hosts` is zero. -/
  | highCpu (hosts : Nat)
  /-- The last reading of every host. -/
  | lastPoint
  /-- The highest readings of the last minutes before a random time. -/
  | orderByLimit
  deriving DecidableEq, Repr

namespace Kind

def registry : List (String × Kind) :=
  [("single-groupby-1-1-1", .singleGroupby 1 1 1), ("single-groupby-1-1-12", .singleGroupby 1 1 12),
    ("single-groupby-1-8-1", .singleGroupby 1 8 1), ("single-groupby-5-1-1", .singleGroupby 5 1 1),
    ("single-groupby-5-1-12", .singleGroupby 5 1 12),
    ("single-groupby-5-8-1", .singleGroupby 5 8 1), ("cpu-max-all-1", .maxAll 1),
    ("cpu-max-all-8", .maxAll 8), ("double-groupby-1", .doubleGroupby 1),
    ("double-groupby-5", .doubleGroupby 5), ("double-groupby-all", .doubleGroupby 10),
    ("high-cpu-all", .highCpu 0), ("high-cpu-1", .highCpu 1), ("lastpoint", .lastPoint),
    ("groupby-orderby-limit", .orderByLimit)]

def ofTag? (tag : String) : Option Kind := registry.lookup tag

/-- What a database must be able to do for this kind, by the name that messages use. -/
def capability : Kind → String
  | .singleGroupby _ _ _ => "SingleGroupbyFiller"
  | .maxAll _ => "MaxAllFiller"
  | .doubleGroupby _ => "DoubleGroupbyFiller"
  | .highCpu _ => "HighCpuFiller"
  | .lastPoint => "LastPointFiller"
  | .orderByLimit => "GroupbyOrderbyLimitFiller"

/-- The length of the range of time that a query looks at, where the kind does not leave it open. -/
def maxAllWindow : Duration := .ofHours 8

def doubleGroupbyWindow : Duration := .ofHours 12

def highCpuWindow : Duration := .ofHours 12

def orderByLimitWindow : Duration := .ofHours 1

def toText : Kind → String
  | .singleGroupby metrics hosts hours =>
      "max of " ++ toString metrics ++ " metric(s) by 1m for " ++ toString hosts ++
        " host(s) over " ++ toString hours ++ "h"
  | .maxAll hosts =>
      "max of all CPU metrics by 1h for " ++ toString hosts ++ " host(s) over " ++
        maxAllWindow.toText
  | .doubleGroupby metrics =>
      "mean of " ++ toString metrics ++ " metric(s) by 1h and host for all hosts over " ++
        doubleGroupbyWindow.toText
  | .highCpu 0 => "readings with usage_user over 90 for all hosts"
  | .highCpu hosts => "readings with usage_user over 90 for " ++ toString hosts ++ " host(s)"
  | .lastPoint => "last reading of every host"
  | .orderByLimit => "last 5 one-minute buckets of max usage_user before a random time"

/-- The label that the latencies of a query are grouped under. It begins with the title of the
database and is otherwise the same for all of them. -/
def label (title : String) : Kind → String
  | .singleGroupby metrics hosts hours =>
      title ++ " " ++ toString metrics ++ " cpu metric(s), random " ++
        Text.padLeft 4 ' ' (toString hosts) ++ " hosts, random " ++
        (Duration.ofHours hours).toText ++ " by 1m"
  | .maxAll hosts =>
      title ++ " max of all CPU metrics, random " ++ Text.padLeft 4 ' ' (toString hosts) ++
        " hosts, random " ++ maxAllWindow.toText ++ " by 1h"
  | .doubleGroupby metrics =>
      title ++ " mean of " ++ toString metrics ++ " metrics, all hosts, random " ++
        doubleGroupbyWindow.toText ++ " by 1h"
  | .highCpu 0 => title ++ " CPU over threshold, all hosts"
  | .highCpu hosts => title ++ " CPU over threshold, " ++ toString hosts ++ " host(s)"
  | .lastPoint => title ++ " last row per host"
  | .orderByLimit => title ++ " max cpu over last 5 min-intervals (random end)"

end Kind

end QueryBench
