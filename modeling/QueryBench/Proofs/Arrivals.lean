import QueryBench.Proofs.Collector

/- Arrivals one after the other at a collector whose sink takes every text. Whatever is reported in
   between, the groups take the observations in their order, and what is written besides the line at
   the end of burn-in is interim reports. -/
namespace QueryBench

namespace Sink

/-- Neither writing nor flushing ever fails. -/
structure Unfailing (s : Sink) : Prop where
  roomy : s.room = none
  flushed : s.flushFails = false

def took (s : Sink) (texts : List String) : Sink :=
  { s with accepted := s.accepted ++ texts.flatMap Text.bytes }

theorem took_unfailing {s : Sink} (free : s.Unfailing) (texts : List String) :
    (s.took texts).Unfailing := ⟨free.roomy, free.flushed⟩

theorem took_nil (s : Sink) : s.took [] = s := by simp [took]

theorem took_took (s : Sink) (texts more : List String) :
    (s.took texts).took more = s.took (texts ++ more) := by
  have bytes : s.accepted ++ texts.flatMap Text.bytes ++ more.flatMap Text.bytes =
      s.accepted ++ (texts ++ more).flatMap Text.bytes := by
    apply Array.toList_inj.mp
    simp
  simp [took, bytes]

theorem writeText_unfailing {s : Sink} (free : s.Unfailing) (text : String) :
    s.writeText text = (.ok (), s.took [text]) := by
  simp [writeText, write, free.roomy, took]

theorem put_unfailing {s : Sink} (free : s.Unfailing) (text : String) :
    s.put text = (.ok (), s.took [text]) := by
  have kept := (took_unfailing free [text]).flushed
  simp [put, writeText_unfailing free, flush, kept]

end Sink

namespace Latency

/-- A text is an interim report, whatever numbers it gives. -/
def Report.IsInterim (s : Settings) (text : String) : Prop :=
  ∃ queries intervalRate overallRate gs, text = interim s queries intervalRate overallRate gs

/-- The words and the number that an interim report begins with. -/
theorem Report.interim_opening (s : Settings) (queries : Nat) (intervalRate overallRate : Float)
    (gs : Groups) :
    ("After " ++ toString queries ++ " queries with " ++ toString s.workers ++
      " workers:\n").toList <+: (interim s queries intervalRate overallRate gs).toList := by
  unfold interim
  simp only [String.toList_append, List.append_assoc, List.prefix_append_right_inj]
  exact List.prefix_append _ _

theorem Report.burnInComplete_opening (s : Settings) (queries : Nat) :
    ("burn-in complete after " ++ toString queries ++ " queries with ").toList <+:
      (burnInComplete s queries).toList := by
  unfold burnInComplete
  simp only [String.toList_append, List.append_assoc, List.prefix_append_right_inj]
  exact List.prefix_append _ _

theorem Report.interim_not_burnInComplete {s : Settings} {text : String}
    (told : IsInterim s text) (queries : Nat) : text ≠ burnInComplete s queries := by
  intro same
  obtain ⟨seen, intervalRate, overallRate, gs, rfl⟩ := told
  obtain ⟨rest, report⟩ := interim_opening s seen intervalRate overallRate gs
  obtain ⟨rest', line⟩ := burnInComplete_opening s queries
  rw [same, ← line] at report
  simp only [String.toList_append, String.reduceToList, List.cons_append] at report
  exact absurd (List.cons.inj report).1 (by decide)

def observeAll (prewarm : Bool) (os : List Observation) (gs : Groups) : Groups :=
  os.foldl (fun gs o => observe prewarm o gs) gs

theorem observeAll_append (prewarm : Bool) (os more : List Observation) (gs : Groups) :
    observeAll prewarm (os ++ more) gs = observeAll prewarm more (observeAll prewarm os gs) :=
  List.foldl_append

theorem counted_append (os more : List Observation) :
    counted (os ++ more) = counted os + counted more := List.countP_append

namespace Collector

def Arrival.observations : Arrival → List Observation
  | .batch observations => observations
  | .tick => []

def received (arrivals : List (Nat × Arrival)) : List Observation :=
  arrivals.flatMap fun a => a.2.observations

theorem received_cons (a : Nat × Arrival) (rest : List (Nat × Arrival)) :
    received (a :: rest) = a.2.observations ++ received rest := List.flatMap_cons

theorem received_append (arrivals more : List (Nat × Arrival)) :
    received (arrivals ++ more) = received arrivals ++ received more := List.flatMap_append

/-- Handles one arrival after the other, each at its time, up to a report that cannot be written. -/
def handleEach (c : Collector) (sink : Sink) : List (Nat × Arrival) → Reported
  | [] => (.ok (), c, sink)
  | (now, a) :: rest =>
      match c.handle now a sink with
      | (.ok (), c, sink) => handleEach c sink rest
      | failed => failed

theorem handleEach_append {c c' : Collector} {sink sink' : Sink} {arrivals : List (Nat × Arrival)}
    (done : c.handleEach sink arrivals = (.ok (), c', sink')) (more : List (Nat × Arrival)) :
    c.handleEach sink (arrivals ++ more) = c'.handleEach sink' more := by
  induction arrivals generalizing c sink with
  | nil =>
    cases done
    rfl
  | cons first rest ih =>
    obtain ⟨now, a⟩ := first
    rw [List.cons_append, handleEach]
    rw [handleEach] at done
    cases handled : c.handle now a sink with
    | mk result after =>
      obtain ⟨between, sink₁⟩ := after
      rw [handled] at done
      cases result with
      | error e => cases done
      | ok u => exact ih done

def fresh (s : Settings) (phase : Phase) (began : Nat) : Collector :=
  { settings := s, phase, started := began, lastReport := began }

section Unfailing
variable {c : Collector} {sink : Sink} (free : sink.Unfailing)
include free

theorem interim_unfailing (now : Nat) :
    ∃ c' texts, c.interim now sink = (.ok (), c', sink.took texts) ∧
      ∀ text ∈ texts, Report.IsInterim c.settings text := by
  rw [interim, Sink.put_unfailing free]
  refine ⟨_, _, rfl, ?_⟩
  intro text member
  rw [List.mem_singleton.mp member]
  exact ⟨_, _, _, _, rfl⟩

theorem take_unfailing (now : Nat) (o : Observation) :
    ∃ c' texts, c.take now o sink = (.ok (), c', sink.took texts) ∧
      ∀ text ∈ texts, Report.IsInterim c.settings text := by
  simp only [take]
  split
  · split
    · exact interim_unfailing free now
    · exact ⟨_, [], by rw [Sink.took_nil], by simp⟩
  · exact ⟨_, [], by rw [Sink.took_nil], by simp⟩

theorem tick_unfailing (now : Nat) :
    ∃ c' texts, c.tick now sink = (.ok (), c', sink.took texts) ∧
      ∀ text ∈ texts, Report.IsInterim c.settings text := by
  rw [tick]
  split
  · exact interim_unfailing free now
  · exact ⟨c, [], by rw [Sink.took_nil], by simp⟩

theorem takeAll_unfailing (now : Nat) (batch : List Observation) :
    ∃ c' texts, c.takeAll now sink batch = (.ok (), c', sink.took texts) ∧
      ∀ text ∈ texts, Report.IsInterim c.settings text := by
  induction batch generalizing c sink with
  | nil => exact ⟨c, [], by rw [Sink.took_nil, takeAll], by simp⟩
  | cons o rest ih =>
    obtain ⟨between, first, taken, firstInterim⟩ := take_unfailing (c := c) free now o
    obtain ⟨c', more, ran, moreInterim⟩ := ih (c := between) (Sink.took_unfailing free first)
    have kept := (take_kept c now o sink).settings
    rw [taken] at kept
    refine ⟨c', first ++ more, ?_, ?_⟩
    · rw [takeAll, taken]
      simp only [ran, Sink.took_took]
    · intro text member
      rcases List.mem_append.mp member with early | late
      · exact firstInterim text early
      · exact kept ▸ moreInterim text late

end Unfailing

/-- The collector once it has counted and grouped more observations, if it changes nothing else that
a summary is about. -/
def gathered (c : Collector) (os : List Observation) : Collector :=
  { c with
    groups := observeAll c.settings.prewarm os c.groups
    queries := c.queries + counted os }

theorem gathered_append (c : Collector) (os more : List Observation) :
    (c.gathered os).gathered more = c.gathered (os ++ more) := by
  simp only [gathered, observeAll_append, counted_append, Nat.add_assoc]

theorem kept_trans {c c' c'' : Collector} {more : List Observation} (first : Kept c c')
    (second : Kept (c'.gathered more) c'') : Kept (c.gathered more) c'' where
  settings := second.settings.trans first.settings
  groups := by
    rw [second.groups]
    simp only [gathered, first.settings, first.groups]
  queries := by
    rw [second.queries]
    simp only [gathered, first.queries]
  burnedIn := second.burnedIn.trans first.burnedIn

theorem burningIn_iff (c : Collector) : c.burningIn = true ↔ c.burnedIn < c.settings.burnIn := by
  simp [burningIn]

theorem handle_measuring {c : Collector} {sink : Sink} (free : sink.Unfailing)
    (measuring : c.settings.burnIn ≤ c.burnedIn) (now : Nat) (a : Arrival) :
    ∃ c' texts, c.handle now a sink = (.ok (), c', sink.took texts) ∧
      Kept (c.gathered a.observations) c' ∧ ∀ text ∈ texts, Report.IsInterim c.settings text := by
  cases a with
  | batch batch =>
    have through : c.burningIn = false := by simp [burningIn, measuring]
    obtain ⟨c', texts, done, interims⟩ := takeAll_unfailing (c := c) free now batch
    have kept := takeAll_kept done
    refine ⟨c', texts, ?_, kept, interims⟩
    rw [handle, receive, through]
    exact done
  | tick =>
    obtain ⟨c', texts, done, interims⟩ := tick_unfailing (c := c) free now
    have kept := tick_kept c now sink
    rw [done] at kept
    exact ⟨c', texts, done, kept, interims⟩

theorem handleEach_measuring {c : Collector} {sink : Sink} (free : sink.Unfailing)
    (measuring : c.settings.burnIn ≤ c.burnedIn) (arrivals : List (Nat × Arrival)) :
    ∃ c' texts, c.handleEach sink arrivals = (.ok (), c', sink.took texts) ∧
      Kept (c.gathered (received arrivals)) c' ∧
      ∀ text ∈ texts, Report.IsInterim c.settings text := by
  induction arrivals generalizing c sink with
  | nil => exact ⟨c, [], by rw [Sink.took_nil, handleEach], ⟨rfl, rfl, rfl, rfl⟩, by simp⟩
  | cons first rest ih =>
    obtain ⟨now, a⟩ := first
    obtain ⟨between, texts, handled, kept, interims⟩ := handle_measuring free measuring now a
    have still : between.settings.burnIn ≤ between.burnedIn := by
      rw [kept.settings, kept.burnedIn]
      exact measuring
    obtain ⟨c', more, ran, keptMore, moreInterims⟩ := ih (Sink.took_unfailing free texts) still
    refine ⟨c', texts ++ more, ?_, ?_, ?_⟩
    · rw [handleEach, handled]
      simp only [ran, Sink.took_took]
    · rw [received_cons, ← gathered_append]
      exact kept_trans kept keptMore
    · intro text member
      rcases List.mem_append.mp member with early | late
      · exact interims text early
      · have told := moreInterims text late
        rwa [kept.settings] at told

end Collector

end Latency

end QueryBench
