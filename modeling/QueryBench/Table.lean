/- Tables with one entry a key, in the order of the keys. -/
namespace QueryBench

abbrev Table (κ α : Type) := List (κ × α)

namespace Table
variable {κ α : Type} [Ord κ]

def find? (key : κ) : Table κ α → Option α
  | [] => none
  | (k, a) :: rest => if compare key k = .eq then some a else find? key rest

/-- Puts `f` of what the key had, if anything, in the place of the key. -/
def alter (key : κ) (f : Option α → α) : Table κ α → Table κ α
  | [] => [(key, f none)]
  | (k, a) :: rest =>
      match compare key k with
      | .lt => (key, f none) :: (k, a) :: rest
      | .eq => (k, f (some a)) :: rest
      | .gt => (k, a) :: alter key f rest

def count (n : Nat) (key : κ) (t : Table κ Nat) : Table κ Nat :=
  t.alter key fun old => old.getD 0 + n

def total : Table κ Nat → Nat
  | [] => 0
  | (_, n) :: rest => n + total rest

end Table

end QueryBench
