/- The readings that every host reports. -/
namespace QueryBench.Metric

/-- All of them, in the order in which queries take them. -/
def all : List String :=
  ["usage_user", "usage_system", "usage_idle", "usage_nice", "usage_iowait", "usage_irq",
    "usage_softirq", "usage_steal", "usage_guest", "usage_guest_nice"]

inductive Error where
  | none
  | tooMany (requested : Nat)
  deriving DecidableEq, Repr

def Error.message : Error → String
  | .none => "cannot get 0 metrics"
  | .tooMany _ => "too many metrics asked for"

def first (n : Nat) : Except Error (List String) :=
  if n = 0 then .error .none
  else if all.length < n then .error (.tooMany n)
  else .ok (all.take n)

end QueryBench.Metric
