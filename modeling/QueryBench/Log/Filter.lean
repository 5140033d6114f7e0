import QueryBench.Decimal.Read
import QueryBench.Log.Level
import QueryBench.Text.Blank
import QueryBench.Text.Split
import QueryBench.Text.Utf8

/- Which log events are shown. A filter is a list of directives such as `info`, `app` or
   `app=debug`; of those that fit an event the most specific one decides. -/
namespace QueryBench.Log

/-- The least important rank that is shown for the targets that begin with a text, and only for
events that have certain fields. -/
structure Directive where
  target : String := ""
  fields : List String := []
  rank : Nat := 5
  deriving DecidableEq, Repr

inductive Filter.Error where
  | malformed
  | level
  deriving DecidableEq, Repr

def Filter.Error.message : Filter.Error → String
  | .malformed => "invalid filter directive"
  | .level =>
      "error parsing level filter: expected one of \"off\", \"error\", \"warn\", \"info\", " ++
        "\"debug\", \"trace\", or a number 0-5"

def rankOf? (cs : List Char) : Option Nat :=
  let word := String.ofList (cs.map Char.toUpper)
  if word = "OFF" then some 0
  else
    match Level.all.find? fun l => l.name = word with
    | some l => some l.rank
    | none => (Decimal.natural? cs).filter (· ≤ 5)

namespace Directive

/-- Where a reader stands, with the position at which the part that it is in begins. -/
inductive Place where
  | start
  | word (at_ : Nat)
  | span (at_ : Nat)
  | field (at_ : Nat)
  | fields
  | behindSpan
  | level (at_ : Nat)
  deriving DecidableEq, Repr

/-- A directive in the making. One that asks for a span, or for the value of a field, fits no
event. -/
structure Draft where
  directive : Directive := {}
  idle : Bool := false
  deriving DecidableEq, Repr

def slice (text : List Char) (first last : Nat) : List Char := (text.drop first).take (last - first)

def canStart (c : Char) : Bool := c = '-' || c = ':' || c = '_' || c.isAlphanum || 127 < c.toNat

def withField (d : Draft) (cs : List Char) : Draft :=
  let name := String.ofList (cs.takeWhile (· ≠ '='))
  { directive := { d.directive with fields := d.directive.fields ++ [name] }
    idle := d.idle || cs.contains '=' }

def advance (text : List Char) (d : Draft) (i : Nat) (c : Char) :
    Place → Except Filter.Error (Place × Draft)
  | .start =>
      if c = '[' then .ok (.span (i + 1), d)
      else if canStart c then .ok (.word i, d)
      else .error .malformed
  | .word first =>
      let targeted := { d with directive.target := String.ofList (slice text first i) }
      if c = '=' then .ok (.level (i + 1), targeted)
      else if c = '[' then .ok (.span (i + 1), targeted)
      else .ok (.word first, d)
  | .span first =>
      if c = ']' then .ok (.behindSpan, { d with idle := true })
      else if c = '\x7b' then .ok (.field (i + 1), { d with idle := d.idle || first < i })
      else .ok (.span first, d)
  | .field first =>
      if c = '\x7d' then
        if first = i then .error .malformed else .ok (.fields, withField d (slice text first i))
      else .ok (.field first, d)
  | .fields => if c = ']' then .ok (.behindSpan, d) else .error .malformed
  | .behindSpan => if c = '=' then .ok (.level (i + 1), d) else .error .malformed
  | .level first => .ok (.level first, d)

/-- The end of the text. A word alone is a level if it can be one, and a target otherwise. -/
def close (text : List Char) (d : Draft) : Place → Except Filter.Error Draft
  | .word first =>
      let word := text.drop first
      match rankOf? word with
      | some rank => .ok { d with directive.rank := rank }
      | none => .ok { d with directive.target := String.ofList word }
  | .level first =>
      match text.drop first with
      | [] => .ok d
      | word =>
          match rankOf? word with
          | some rank => .ok { d with directive.rank := rank }
          | none => .error .level
  | .behindSpan => .ok d
  | _ => .error .malformed

def read (text : List Char) : Place → Draft → Nat → List Char → Except Filter.Error Draft
  | place, d, _, [] => close text d place
  | place, d, i, c :: rest =>
      match advance text d i c place with
      | .error e => .error e
      | .ok (place, d) => read text place d (i + 1) rest

/-- Reads a directive. Blanks around it are passed over, but positions count them from the
beginning. -/
def ofText (text : List Char) : Except Filter.Error Draft :=
  read text .start {} 0 (Text.trim text)

def fits (d : Directive) (target : String) (fields : List String) : Bool :=
  target.startsWith d.target && d.fields.all fields.contains

/-- Longer targets are more specific, then more fields, then those later in the alphabet. -/
def order (a b : Directive) : Ordering :=
  (compare [Text.size a.target, a.fields.length] [Text.size b.target, b.fields.length]).then
    (compare a.fields b.fields)

end Directive

structure Filter where
  directives : List Directive
  deriving DecidableEq, Repr

namespace Filter

def gather : List (List Char) → Except Error (List Directive)
  | [] => .ok []
  | part :: parts =>
      match Directive.ofText part, gather parts with
      | .error e, _ => .error e
      | _, .error e => .error e
      | .ok d, .ok ds => .ok (if d.idle then ds else d.directive :: ds)

/-- Directives stand between commas, and empty ones are passed over. -/
def ofText (s : String) : Except Error Filter :=
  match gather ((Text.splitList ',' s.toList).filter (· ≠ [])) with
  | .error e => .error e
  | .ok directives => .ok ⟨directives⟩

/-- The most specific directive that fits; of equal ones it is the last. -/
def decisive? (f : Filter) (target : String) (fields : List String) : Option Directive :=
  (f.directives.filter (·.fits target fields)).foldl (fun best d =>
    match best with
    | none => some d
    | some b => if Directive.order d b = .lt then some b else some d) none

/-- Whether an event is shown; one that no directive fits is not. -/
def shows (f : Filter) (level : Level) (target : String) (fields : List String) : Bool :=
  match f.decisive? target fields with
  | none => false
  | some d => level.rank ≤ d.rank

end Filter

end QueryBench.Log
