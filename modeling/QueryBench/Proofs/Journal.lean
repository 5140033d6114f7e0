import QueryBench.Proofs.BurnIn

/- A journal of the interim reports of a collector, with the numbers that each is made from. Where every
   text can be written, the collector writes just the reports of its journal. -/
namespace QueryBench.Latency

/-- An interim report: the number of queries it is written at, that of the report before it or of the
end of burn-in, the times since then and since the start, and the groups. -/
structure Note where
  /-- Whether the clock asked for it, and not the number of queries. -/
  ticked : Bool
  queries : Nat
  since : Nat
  elapsed : Nat
  running : Nat
  groups : Groups

namespace Note

def interval (n : Note) : Nat := n.queries - n.since

def text (s : Settings) (n : Note) : String :=
  Report.interim s n.queries (rate n.interval n.elapsed) (rate n.queries n.running) n.groups

/-- The number that the next report counts from. -/
def last (burned : Nat) (notes : List Note) : Nat := (notes.getLast?.map queries).getD burned

theorem last_concat (burned : Nat) (notes : List Note) (n : Note) :
    last burned (notes ++ [n]) = n.queries := by simp [last]

end Note

theorem counted_singleton (o : Observation) : counted [o] = if o.counted then 1 else 0 := by
  cases full : o.counted with
  | false => simp [counted, full]
  | true => simp [counted, full]

namespace Collector

def note (c : Collector) (ticked : Bool) (now : Nat) : Note :=
  { ticked
    queries := c.queries
    since := c.lastReportQueries
    elapsed := now - c.lastReport
    running := now - c.started
    groups := c.groups }

def reported (c : Collector) (now : Nat) : Collector :=
  { c with phase := .collecting, lastReport := now, lastReportQueries := c.queries }

def noteOne (c : Collector) (now : Nat) (o : Observation) : Collector × List Note :=
  let c := c.gathered [o]
  if o.counted && c.reportDue then (c.reported now, [c.note false now]) else (c, [])

def noteAll (c : Collector) (now : Nat) : List Observation → Collector × List Note
  | [] => (c, [])
  | o :: rest =>
      let (c, first) := c.noteOne now o
      let (c, more) := c.noteAll now rest
      (c, first ++ more)

def burnt (c : Collector) (now : Nat) (batch : List Observation) : Collector :=
  let c := c.burned (counted batch)
  if c.burningIn then c else { c with lastReport := now, lastReportQueries := c.queries }

def noteArrival (c : Collector) (now : Nat) : Arrival → Collector × List Note
  | .tick => if c.hasNews then (c.reported now, [c.note true now]) else (c, [])
  | .batch batch => if c.burningIn then (c.burnt now batch, []) else c.noteAll now batch

def noteEach (c : Collector) : List (Nat × Arrival) → Collector × List Note
  | [] => (c, [])
  | (now, a) :: rest =>
      let (c, first) := c.noteArrival now a
      let (c, more) := c.noteEach rest
      (c, first ++ more)

/-- The reports that a collector writes as the arrivals come, where every text can be written. -/
def journal (c : Collector) (arrivals : List (Nat × Arrival)) : List Note := (c.noteEach arrivals).2

theorem noteEach_append (c : Collector) (arrivals more : List (Nat × Arrival)) :
    c.noteEach (arrivals ++ more) =
      (((c.noteEach arrivals).1.noteEach more).1,
        (c.noteEach arrivals).2 ++ ((c.noteEach arrivals).1.noteEach more).2) := by
  induction arrivals generalizing c with
  | nil => rfl
  | cons first rest ih =>
    obtain ⟨now, a⟩ := first
    simp only [List.cons_append, noteEach, ih, List.append_assoc]

section Writing
variable {c : Collector} {sink : Sink} (free : sink.Unfailing)
include free

theorem interim_noted (ticked : Bool) (now : Nat) :
    c.interim now sink =
      (.ok (), c.reported now, sink.took [(c.note ticked now).text c.settings]) := by
  rw [interim, Sink.put_unfailing free]
  rfl

theorem take_noted (now : Nat) (o : Observation) :
    c.take now o sink = (.ok (), (c.noteOne now o).1,
      sink.took ((c.noteOne now o).2.map (Note.text c.settings))) := by
  simp only [take, noteOne, gathered, counted_singleton]
  cases full : o.counted with
  | false => simp [observeAll, Sink.took_nil]
  | true =>
    simp only [observeAll, List.foldl_cons, List.foldl_nil, if_true, Bool.true_and]
    split
    · exact interim_noted free false now
    · simp [Sink.took_nil]

theorem tick_noted (now : Nat) :
    c.tick now sink = (.ok (), (c.noteArrival now .tick).1,
      sink.took ((c.noteArrival now .tick).2.map (Note.text c.settings))) := by
  rw [tick, noteArrival]
  split
  · exact interim_noted free true now
  · simp [Sink.took_nil]

theorem burn_noted (now : Nat) (batch : List Observation) :
    ∃ lines, c.burn now batch sink = (.ok (), c.burnt now batch, sink.took lines) := by
  by_cases still : (c.burned (counted batch)).burningIn = true
  · refine ⟨[], ?_⟩
    rw [Sink.took_nil, burnt, if_pos still]
    exact if_pos still
  · refine ⟨[Report.burnInComplete c.settings (c.burned (counted batch)).burnedIn], ?_⟩
    rw [burnt, if_neg still]
    refine (if_neg still).trans ?_
    simp only [Sink.writeText_unfailing free]
    rfl

end Writing

end Collector

end QueryBench.Latency
