import QueryBench.Decimal.Fixed
import QueryBench.Latency.Histogram

/- A percentile ladder: the recorded values against steps of the quantile that get finer towards
   one, ten for each halving of what is left. The buckets are walked with a cursor, which gives with
   each stop what was counted since the last one; the ladder adds these counts up again. -/
namespace QueryBench.Latency

/-- A stop of the walk: a value, a quantile that it reaches, and how many values were counted since
the stop before. -/
structure Stop where
  value : Nat
  quantile : Float
  since : Nat

/-- A row of the ladder, with the sum of the counts up to its stop. -/
structure Rung where
  value : Nat
  quantile : Float
  total : Nat

/-- The distance from quantile one is shown as its inverse, except at one itself. -/
def Rung.toText (r : Rung) : String :=
  Decimal.field 12 3 (Float.ofNat r.value / 1000) ++ " " ++ Decimal.field 2 12 r.quantile ++ " " ++
    Text.padLeft 10 ' ' (toString r.total) ++
    if r.quantile < 1 then " " ++ Decimal.field 14 2 (1 / (1 - r.quantile)) else ""

namespace Ladder

/-- Where the walk is: the greatest value of its bucket, the count up to there, what of it no stop
has given yet, and the quantile that is due. -/
structure Cursor where
  value : Nat := 0
  total : Nat := 0
  since : Nat := 0
  quantile : Float := 0

namespace Cursor

/-- The cursor at the next bucket, whose values are counted once. -/
def enter (c : Cursor) (bucket n : Nat) : Cursor :=
  { c with value := Bucket.highest bucket, total := c.total + n, since := c.since + n }

def stop (c : Cursor) : Stop := ⟨c.value, c.quantile, c.since⟩

/-- The cursor behind a stop. -/
def past (c : Cursor) (quantile : Float) : Cursor := { c with since := 0, quantile }

end Cursor

def next (quantile : Float) : Float :=
  let halvings := min 62 ((1 / (1 - quantile)).log2.toUInt64.toNat)
  let steps : Nat := 10 <<< (halvings + 1)
  quantile + 1 / Float.ofNat steps

/-- The stops at one bucket, as long as the count reaches the quantile that is due. -/
def climb (reached : Nat → Float → Bool) : Nat → Cursor → List Stop × Cursor
  | 0, c => ([], c)
  | fuel + 1, c =>
      if reached c.total c.quantile then
        let (stops, last) := climb reached fuel (c.past (next c.quantile))
        (c.stop :: stops, last)
      else ([], c)

/-- The stops from the bucket of a cursor on. The last bucket has one for the quantile that is due
and one for quantile one. -/
def stopsFrom (reached : Nat → Float → Bool) (c : Cursor) : Table Nat Nat → List Stop
  | [] => [c.stop, (c.past 1).stop]
  | (b, n) :: rest =>
      let (stops, c) := climb reached 1024 c
      stops ++ stopsFrom reached (c.enter b n) rest

def stopsBy (reached : Nat → Float → Bool) : Table Nat Nat → List Stop
  | [] => []
  | (b, n) :: rest => stopsFrom reached (({} : Cursor).enter b n) rest

def stops (h : Histogram) : List Stop :=
  stopsBy (fun total quantile => quantile ≤ Float.ofNat total / Float.ofNat h.total) h.buckets

def rungsFrom (total : Nat) : List Stop → List Rung
  | [] => []
  | s :: rest => ⟨s.value, s.quantile, total + s.since⟩ :: rungsFrom (total + s.since) rest

def rungs (h : Histogram) : List Rung := rungsFrom 0 (stops h)

/-- The ladder of a histogram, with a heading, and mean, deviation and greatest value below. -/
def toText (h : Histogram) : String :=
  let heading := String.intercalate " "
    [Text.padLeft 12 ' ' "Value", Text.padLeft 14 ' ' "Percentile",
      Text.padLeft 10 ' ' "TotalCount", Text.padLeft 14 ' ' "1/(1-Percentile)"]
  String.join (([heading, ""] ++ (rungs h).map Rung.toText ++
    ["#[Mean    = " ++ Decimal.field 12 3 (h.mean / 1000) ++ ", StdDeviation   = " ++
        Decimal.field 12 3 (h.deviation / 1000) ++ "]",
      "#[Max     = " ++ Decimal.field 12 3 (Float.ofNat h.greatest / 1000) ++
        ", Total count    = " ++ Text.padLeft 12 ' ' (toString h.total) ++ "]"]).map (· ++ "\n"))

end Ladder

end QueryBench.Latency
