import QueryBench.Workload.Siri
import QueryBench.Workload.Timescale

/- The databases that a workload can be written for, by name. -/
namespace QueryBench

inductive Format where
  | timescale
  | siri
  deriving DecidableEq, Repr

namespace Format

def all : List Format := [.timescale, .siri]

def tag : Format → String
  | .timescale => "timescaledb"
  | .siri => "siridb"

def ofTag? (s : String) : Option Format := all.find? (·.tag = s)

def unknownMessage (s : String) : String :=
  "unknown format '" ++ s ++ "', expected one of: " ++ String.intercalate ", " (all.map tag)

def database (useTimeBucket : Bool) : Format → Database
  | .timescale => Timescale.database useTimeBucket
  | .siri => Siri.database

end Format

end QueryBench
