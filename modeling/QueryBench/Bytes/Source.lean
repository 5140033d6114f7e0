import QueryBench.Bytes.Fault

/- Where bytes come from. A source is a script of what its reads give: runs of bytes, interruptions
   that ask for another try, and behind them the end of the data or a failure that stays. -/
namespace QueryBench

inductive Delivery where
  | run (first : UInt8) (more : List UInt8)
  | interrupted
  deriving DecidableEq, Repr

structure Source where
  deliveries : List Delivery
  failure? : Option Fault := none
  deriving DecidableEq, Repr

namespace Source

def runOf : List UInt8 → List Delivery
  | [] => []
  | b :: bs => [.run b bs]

def ofBytes (bs : List UInt8) : Source := ⟨runOf bs, none⟩

def content : List Delivery → List UInt8
  | [] => []
  | .run b bs :: ds => b :: bs ++ content ds
  | .interrupted :: ds => content ds

/-- Reads until `count` bytes have come or the script is over: the bytes and what is left of it. -/
def gather : Nat → List Delivery → List UInt8 × List Delivery
  | 0, ds => ([], ds)
  | _ + 1, [] => ([], [])
  | count + 1, .interrupted :: ds => gather (count + 1) ds
  | count + 1, .run b bs :: ds =>
      match bs.drop count with
      | [] =>
          let (more, ds) := gather (count - bs.length) ds
          (b :: bs ++ more, ds)
      | left => (b :: bs.take count, runOf left ++ ds)

/-- As many of `count` bytes as the source has. Running into a failure loses what was read on the
way. -/
def read (s : Source) (count : Nat) : Except Fault (List UInt8) × Source :=
  let (bs, ds) := gather count s.deliveries
  let rest : Source := { s with deliveries := ds }
  match s.failure? with
  | some fault => if bs.length < count then (.error fault, rest) else (.ok bs, rest)
  | none => (.ok bs, rest)

end Source

end QueryBench
