/- A clock signal at a fixed period. Times are nanoseconds; the signal comes at the first whole
   millisecond that is not before its deadline. -/
namespace QueryBench.Latency

structure Ticker where
  period : Nat
  deadline : Nat
  deriving DecidableEq, Repr

namespace Ticker

def nanosPerMilli : Nat := 1000000

def noticed (deadline : Nat) : Nat :=
  (deadline + nanosPerMilli - 1) / nanosPerMilli * nanosPerMilli

def start (period now : Nat) : Ticker := ⟨period, now + period⟩

def due (t : Ticker) (now : Nat) : Bool := noticed t.deadline ≤ now

/-- Lets the signals up to now go by, each at its time. -/
def pass (t : Ticker) (now : Nat) : Ticker :=
  if t.due now then
    let reached := now / nanosPerMilli * nanosPerMilli
    { t with deadline := t.deadline + ((reached - t.deadline) / t.period + 1) * t.period }
  else t

/-- The signal after one that comes now. One that comes more than five milliseconds late moves those
behind it. -/
def fire (t : Ticker) (now : Nat) : Ticker :=
  if t.deadline + 5 * nanosPerMilli < now then { t with deadline := now + t.period } else t.pass now

end Ticker

end QueryBench.Latency
