import QueryBench.Log.Event

/- What the user says about the log. -/
namespace QueryBench.Log

inductive Destination where
  | output
  | error
  deriving DecidableEq, Repr

namespace Destination

def all : List Destination := [.output, .error]

def name : Destination → String
  | .output => "stdout"
  | .error => "stderr"

end Destination

structure Options where
  filter : Option String := none
  /-- How often more was asked for. -/
  verbose : Nat := 0
  destination : Destination := .error
  format : Format := .full
  deriving DecidableEq, Repr

namespace Options

/-- The filter that counts. Asking for more overrides one that is spelled out, and the default is
taken where nothing is said. -/
def filterText (o : Options) (default : String) : String :=
  match o.verbose with
  | 0 => o.filter.getD default
  | 1 => "info"
  | 2 => "debug"
  | _ => "trace"

/-- A text that is no filter, and why. -/
structure Error where
  filter : String
  cause : Filter.Error
  deriving DecidableEq, Repr

def Error.message (e : Error) : String :=
  "invalid log filter '" ++ e.filter ++ "': " ++ e.cause.message

def toFilter (o : Options) (default : String) : Except Error Filter :=
  match Filter.ofText (o.filterText default) with
  | .error cause => .error ⟨o.filterText default, cause⟩
  | .ok f => .ok f

end Options

end QueryBench.Log
