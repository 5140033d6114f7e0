import QueryBench.Random.Keystream

/- Uniform numbers below a bound. A word of the stream is multiplied by the bound: the high part of
   the product is the number, and the low part decides whether the word counts. Words whose low part
   lies above the zone are skipped, which leaves every number the same count of words. -/
namespace QueryBench

inductive Width where
  | short
  | long
  deriving DecidableEq, Repr

def Width.bits : Width → Nat
  | .short => 32
  | .long => 64

namespace Keystream

def next : Width → Keystream → Nat × Keystream
  | .short, k => (k.next32.1.toNat, k.next32.2)
  | .long, k => (k.next64.1.toNat, k.next64.2)

/-- The words after which every stream repeats. -/
def period : Nat := 16 * UInt64.size

/-- Takes words until one is accepted. A stream that has shown a whole period without one never
will; `otherwise` answers for it. -/
def search {α : Type} (width : Width) (accept : Nat → Option α) (otherwise : Unit → α) :
    Nat → Keystream → α × Keystream
  | 0, k => (otherwise (), k)
  | fuel + 1, k =>
      match accept (k.next width).1 with
      | some a => (a, (k.next width).2)
      | none => search width accept otherwise fuel (k.next width).2

end Keystream

namespace Draw

/-- The number below `range` that a word stands for, if its low part lies in the zone. -/
def ofWord? (bits range zone word : Nat) : Option Nat :=
  let product := word * range
  if product % (1 <<< bits) ≤ zone then some (product >>> bits) else none

/-- The zone of a single draw: the bound, doubled for as long as it fits a word. -/
def doubledZone (bits range : Nat) : Nat := range <<< (bits - 1 - range.log2) - 1

/-- The zone of repeated draws: the most words that the bound divides. -/
def multipleZone (bits range : Nat) : Nat := (1 <<< bits) - 1 - ((1 <<< bits) - range) % range

/-- A single draw below `range`, which is positive and at most the number of words. -/
def below (width : Width) (range : Nat) (k : Keystream) : Nat × Keystream :=
  k.search width (ofWord? width.bits range (doubledZone width.bits range)) (fun _ => 0)
    Keystream.period

end Draw

end QueryBench
