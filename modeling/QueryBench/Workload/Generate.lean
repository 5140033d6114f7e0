import QueryBench.Stream.Writer
import QueryBench.Table
import QueryBench.Workload.Format

/- Writing a workload to a stream. Several processes can share one workload: each of them draws all
   of its queries and writes every `groups`-th one, so that the draws line up. -/
namespace QueryBench.Generate

inductive Error where
  | invalidInterleave (id groups : Nat)
  | emptyLabel (index : Nat)
  | interval (e : Interval.Error)
  | workload (e : Workload.Error)
  | stream (e : Stream.Error)
  deriving DecidableEq, Repr

def Error.message : Error → String
  | .invalidInterleave id groups =>
      "interleaved generation group id " ++ toString id ++
        " must be less than the number of groups " ++ toString groups
  | .emptyLabel index => "query " ++ toString index ++ " was generated without a human label"
  | .interval e => "invalid benchmark time range: " ++ e.message
  | .workload e => "failed to generate query: " ++ e.message
  | .stream e => "failed to write query stream: " ++ e.message

structure Config where
  format : Format
  kindTag : String
  scale : Nat
  seed : UInt64
  start : Moment
  finish : Moment
  queries : Nat
  groupId : Nat
  groups : Nat
  useTimeBucket : Bool
  deriving DecidableEq, Repr

structure Summary where
  written : Nat := 0
  byLabel : Table String Nat := []
  deriving DecidableEq, Repr

def Summary.add (s : Summary) (label : String) : Summary :=
  ⟨s.written + 1, s.byLabel.count 1 label⟩

structure Progress where
  fleet : Fleet
  query : Query
  writer : Stream.Writer
  summary : Summary
  deriving DecidableEq, Repr

/-- Generates the query at `index` in the place of the one before it, and writes it if it is one of
the group. -/
def step (d : Database) (kind : Kind) (groupId groups index : Nat) (p : Progress) :
    Except Error Unit × Progress :=
  match d.generate kind p.query.cleared p.fleet with
  | (.error e, fleet) => (.error (.workload e), { p with fleet })
  | (.ok query, fleet) =>
      let p := { p with fleet, query }
      if query.label = "" then (.error (.emptyLabel index), p)
      else if index % groups = groupId then
        match p.writer.write query with
        | (.error e, writer) => (.error (.stream e), { p with writer })
        | (.ok (), writer) => (.ok (), { p with writer, summary := p.summary.add query.label })
      else (.ok (), p)

/-- So many steps from `index` on, up to the first that fails. -/
def steps (d : Database) (kind : Kind) (groupId groups : Nat) :
    Nat → Nat → Progress → Except Error Unit × Progress
  | 0, _, p => (.ok (), p)
  | count + 1, index, p =>
      match step d kind groupId groups index p with
      | (.ok (), p) => steps d kind groupId groups count (index + 1) p
      | failed => failed

/-- Writes `queries` queries of one kind. A kind that the database does not support fails before the
first byte. -/
def write (d : Database) (kind : Kind) (fleet : Fleet) (queries groupId groups : Nat)
    (sink : Sink) : Except Error Summary × Sink :=
  if d.supports kind then
    match Stream.Writer.start sink with
    | (.error e, writer) => (.error (.stream e), writer.sink)
    | (.ok (), writer) =>
        match steps d kind groupId groups queries 0 ⟨fleet, d.emptyQuery, writer, {}⟩ with
        | (.error e, p) => (.error e, p.writer.sink)
        | (.ok (), p) =>
            match p.writer.finish with
            | .error e => (.error (.stream e), p.writer.sink)
            | .ok () => (.ok p.summary, p.writer.sink)
  else (.error (.workload (.unsupported kind.capability d.tag)), sink)

/-- What has to hold before anything is drawn: the group, the kind and the range of time, looked at
in this order. -/
def prepare (c : Config) : Except Error (Kind × Fleet) :=
  if c.groups = 0 ∨ c.groups ≤ c.groupId then .error (.invalidInterleave c.groupId c.groups)
  else
    match Workload.kindOfTag c.kindTag, Interval.ofMoments c.start c.finish with
    | .error e, _ => .error (.workload e)
    | _, .error e => .error (.interval e)
    | .ok kind, .ok interval => .ok (kind, ⟨interval, .ofSeed c.scale c.seed⟩)

def run (c : Config) (sink : Sink) : Except Error Summary × Sink :=
  match prepare c with
  | .error e => (.error e, sink)
  | .ok (kind, fleet) =>
      write (c.format.database c.useTimeBucket) kind fleet c.queries c.groupId c.groups sink

end QueryBench.Generate
