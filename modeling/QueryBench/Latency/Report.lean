import QueryBench.Decimal.Shortest
import QueryBench.Latency.Group
import QueryBench.Latency.Settings
import QueryBench.Text.Utf8

/- The texts that a measurement writes: a line at the end of burn-in, interim reports, and the final
   report. -/
namespace QueryBench.Latency

def seconds (nanos : Nat) : Float :=
  Float.ofNat (nanos / nanosPerSecond) + Float.ofNat (nanos % nanosPerSecond) / 1000000000

/-- Queries a second, zero where no time has passed. -/
def rate (queries nanos : Nat) : Float :=
  if 0 < seconds nanos then Float.ofNat queries / seconds nanos else 0

abbrev Groups := Table String Group

namespace Report

def group (percentiles : List Float) (g : Group) : String :=
  "min: " ++ Decimal.field 8 2 g.least ++ "ms, " ++
    String.join (percentiles.map fun p =>
      "p" ++ Decimal.plain p ++ ": " ++ Decimal.field 8 2 (g.percentile p) ++ "ms, ") ++
    "mean: " ++ Decimal.field 8 2 g.mean ++ "ms, max: " ++ Decimal.field 7 2 g.greatest ++
    "ms, stddev: " ++ Decimal.field 8 2 g.deviation ++ "ms, sum: " ++
    Decimal.field 5 1 (g.sum / 1000) ++ "sec, count: " ++ toString g.count ++ "\n"

/-- Two lines a group, in the order of the labels, which are filled up to the size of the
largest. -/
def groups (percentiles : List Float) (gs : Groups) : String :=
  let width := (gs.map fun (label, _) => Text.size label).foldl max 0
  String.join (gs.map fun (label, g) =>
    Text.padRight width ' ' label ++ ":\n" ++ group percentiles g)

def burnInComplete (s : Settings) (queries : Nat) : String :=
  "burn-in complete after " ++ toString queries ++ " queries with " ++ toString s.workers ++
    " workers\n"

def interim (s : Settings) (queries : Nat) (intervalRate overallRate : Float) (gs : Groups) :
    String :=
  "After " ++ toString queries ++ " queries with " ++ toString s.workers ++ " workers:\n" ++
    "Interval query rate: " ++ Decimal.fixed 2 intervalRate ++ " queries/sec\t" ++
    "Overall query rate: " ++ Decimal.fixed 2 overallRate ++ " queries/sec\n" ++
    groups s.percentiles gs

def final (s : Settings) (queries nanos : Nat) (gs : Groups) : String :=
  "Run complete after " ++ toString queries ++ " queries with " ++ toString s.workers ++
    " workers (Overall query rate " ++ Decimal.fixed 2 (rate queries nanos) ++ " queries/sec):\n" ++
    groups s.percentiles gs ++ "Wall clock time: " ++ Decimal.fixed 6 (seconds nanos) ++ "sec\n"

end Report

end QueryBench.Latency
