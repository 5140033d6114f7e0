/- Running count, sum, extremes, mean and squared deviations of a sequence of numbers, updated in
   constant time. The arithmetic is a parameter: measurements use floating point, and over exact
   fractions the mean and the deviations are those of the definition. -/
namespace QueryBench.Latency

instance floatNatCast : NatCast Float := ⟨Float.ofNat⟩

structure Moments (α : Type) where
  count : Nat
  sum : α
  mean : α
  /-- The sum of the squared distances from the mean. -/
  m2 : α
  least? : Option α
  greatest? : Option α
  deriving DecidableEq, Repr

namespace Moments
variable {α : Type} [NatCast α]

def empty : Moments α := ⟨0, (0 : Nat), (0 : Nat), (0 : Nat), none, none⟩

variable [Add α] [Sub α] [Mul α] [Div α] [LT α] [DecidableLT α] [BEq α]

/-- The lesser of the old extreme and a new value, which counts only if it equals itself. -/
def lesser (old : Option α) (v : α) : Option α :=
  match old with
  | none => if v == v then some v else none
  | some l => some (if v < l then v else l)

def greater (old : Option α) (v : α) : Option α :=
  match old with
  | none => if v == v then some v else none
  | some g => some (if g < v then v else g)

/-- Takes a value in. Its distance from the old mean moves the mean, and the squares grow by that
distance times the one from the new mean. -/
def push (m : Moments α) (v : α) : Moments α :=
  let count := m.count + 1
  let delta := v - m.mean
  let mean := m.mean + delta / (count : Nat)
  { count
    sum := m.sum + v
    mean
    m2 := m.m2 + delta * (v - mean)
    least? := lesser m.least? v
    greatest? := greater m.greatest? v }

/-- The mean of the squared distances from the mean, zero for the empty sequence. -/
def variance (m : Moments α) : α :=
  if m.count = 0 then (0 : Nat) else m.m2 / (m.count : Nat)

end Moments

end QueryBench.Latency
