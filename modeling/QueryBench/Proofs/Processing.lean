import QueryBench.Latency.Collection
import QueryBench.Proofs.Arrivals

/- The whole work of a collector, from the first arrival to the final report. It counts what comes up
   to a report that fails, and is done just when it has a summary to give. -/
namespace QueryBench

namespace Latency.Collector

/-- An operation counts the front of what came, and all of it unless a report fails. -/
def CountsFront (os : List Observation) (before : Nat) (reported : Reported) : Prop :=
  ∃ seen, seen <+: os ∧ reported.2.1.queries = before + counted seen ∧
    (reported.1 = .ok () → seen = os)

theorem takeAll_counts (c : Collector) (now : Nat) (sink : Sink) (batch : List Observation) :
    CountsFront batch c.queries (c.takeAll now sink batch) := by
  induction batch generalizing c sink with
  | nil => exact ⟨[], List.prefix_rfl, rfl, fun _ => rfl⟩
  | cons o rest ih =>
    have first := (take_kept c now o sink).queries
    rw [takeAll]
    generalize c.take now o sink = one at first
    obtain ⟨result, between, sink'⟩ := one
    simp only at first
    cases result with
    | error e =>
      refine ⟨[o], List.cons_prefix_cons.mpr ⟨rfl, List.nil_prefix⟩, first, ?_⟩
      intro done
      cases done
    | ok _ =>
      obtain ⟨seen, front, queries, all⟩ := ih between sink'
      refine ⟨o :: seen, List.cons_prefix_cons.mpr ⟨rfl, front⟩, ?_, ?_⟩
      · rw [queries, first, counted_cons o seen, Nat.add_assoc]
      · intro done
        rw [all done]

theorem handle_counts (c : Collector) (now : Nat) (a : Arrival) (sink : Sink) :
    CountsFront a.observations c.queries (c.handle now a sink) := by
  cases a with
  | batch batch =>
    rw [handle, receive]
    split
    · exact ⟨batch, List.prefix_rfl, (burn_kept c now batch sink).queries, fun _ => rfl⟩
    · exact takeAll_counts c now sink batch
  | tick => exact ⟨[], List.prefix_rfl, (tick_kept c now sink).queries, fun _ => rfl⟩

theorem handleEach_fails {c : Collector} {sink : Sink} {arrivals : List (Nat × Arrival)} {e : Error}
    (failed : (c.handleEach sink arrivals).1 = .error e) :
    ∃ front last back seen, arrivals = front ++ last :: back ∧
      (∀ later, c.handleEach sink (front ++ last :: later) = c.handleEach sink arrivals) ∧
      seen <+: last.2.observations ∧
      (c.handleEach sink arrivals).2.1.queries = c.queries + counted (received front ++ seen) := by
  induction arrivals generalizing c sink with
  | nil => cases failed
  | cons first rest ih =>
    obtain ⟨now, a⟩ := first
    obtain ⟨seen, front, queries, all⟩ := handle_counts c now a sink
    cases handled : c.handle now a sink with
    | mk result after =>
      obtain ⟨between, sink'⟩ := after
      simp only [handled] at queries all
      cases result with
      | error e' =>
        refine ⟨[], (now, a), rest, seen, rfl, ?_, front, ?_⟩
        · intro later
          simp only [List.nil_append, handleEach, handled]
        · simp only [handleEach, handled, queries]
          rfl
      | ok _ =>
        simp only [handleEach, handled] at failed ⊢
        obtain ⟨front', last, back, seen', split, same, begins, queries'⟩ := ih failed
        refine ⟨(now, a) :: front', last, back, seen', by rw [split]; rfl, ?_, begins, ?_⟩
        · intro later
          simp only [List.cons_append, handleEach, handled, same]
        · rw [queries', queries, all rfl, received_cons, List.append_assoc,
            counted_append a.observations, Nat.add_assoc]

theorem interim_undone (c : Collector) (now : Nat) (sink : Sink) :
    (c.interim now sink).2.1.phase ≠ .done := by
  rw [interim]
  split
  · intro done
    cases done
  · intro done
    cases done

theorem take_undone {c : Collector} (undone : c.phase ≠ .done) (now : Nat) (o : Observation)
    (sink : Sink) : (c.take now o sink).2.1.phase ≠ .done := by
  simp only [take]
  split
  · split
    · exact interim_undone _ now sink
    · exact undone
  · exact undone

theorem takeAll_undone {c : Collector} (undone : c.phase ≠ .done) (now : Nat) (sink : Sink)
    (batch : List Observation) : (c.takeAll now sink batch).2.1.phase ≠ .done := by
  induction batch generalizing c sink with
  | nil => exact undone
  | cons o rest ih =>
    have first := take_undone undone now o sink
    rw [takeAll]
    split
    · rename_i taken
      rw [taken] at first
      exact ih first _
    · exact first

theorem handle_undone {c : Collector} (undone : c.phase ≠ .done) (now : Nat) (a : Arrival)
    (sink : Sink) : (c.handle now a sink).2.1.phase ≠ .done := by
  cases a with
  | batch batch =>
    rw [handle, receive]
    split
    · simp only [burn]
      split
      · exact undone
      · split
        · exact undone
        · exact undone
    · exact takeAll_undone undone now sink batch
  | tick =>
    rw [handle, tick]
    split
    · exact interim_undone c now sink
    · exact undone

theorem handleEach_undone {c : Collector} (undone : c.phase ≠ .done) (sink : Sink)
    (arrivals : List (Nat × Arrival)) : (c.handleEach sink arrivals).2.1.phase ≠ .done := by
  induction arrivals generalizing c sink with
  | nil => exact undone
  | cons first rest ih =>
    obtain ⟨now, a⟩ := first
    have handled := handle_undone undone now a sink
    rw [handleEach]
    split
    · rename_i done
      rw [done] at handled
      exact ih handled _
    · exact handled

theorem finish_done_iff (c : Collector) (now : Nat) (sink : Sink) (d : Directory) :
    (c.finish now sink d).2.1.phase = .done ↔ ∃ r, (c.finish now sink d).1 = .ok r := by
  simp only [finish]
  split
  · constructor
    · intro done
      cases done
    · rintro ⟨r, ⟨⟩⟩
  · split
    · constructor
      · intro done
        cases done
      · rintro ⟨r, ⟨⟩⟩
    · exact iff_of_true rfl ⟨_, rfl⟩

/-- The work of a collector with its outputs, from the first arrival to the final report. -/
structure Processed where
  result : Except Error RunSummary
  collector : Collector
  interim : Sink
  summary : Sink
  directory : Directory

def conclude (ended : Nat) (summary : Sink) (d : Directory) : Reported → Processed
  | (.error e, c, interim) => ⟨.error e, c, interim, summary, d⟩
  | (.ok (), c, interim) =>
      let (result, c, summary, d) := c.finish ended summary d
      ⟨result, c, interim, summary, d⟩

def process (s : Settings) (began ended : Nat) (arrivals : List (Nat × Arrival))
    (interim summary : Sink) (d : Directory) : Processed :=
  conclude ended summary d ((start { settings := s } began).handleEach interim arrivals)

variable (s : Settings) (began ended : Nat) (arrivals : List (Nat × Arrival)) (d : Directory)

theorem process_done_iff (interim summary : Sink) :
    (process s began ended arrivals interim summary d).collector.phase = .done ↔
      ∃ r, (process s began ended arrivals interim summary d).result = .ok r := by
  have begun : (start { settings := s } began).phase ≠ .done := by
    intro done
    cases done
  have undone := handleEach_undone begun interim arrivals
  unfold process conclude
  split
  · rename_i ran
    rw [ran] at undone
    constructor
    · intro done
      exact absurd done undone
    · rintro ⟨r, ⟨⟩⟩
  · exact finish_done_iff _ ended summary d

variable {s began ended arrivals d}

theorem process_ran {c c' : Collector} {interim interim' summary summary' : Sink}
    {result : Except Error RunSummary} {d' : Directory}
    (handled : (start { settings := s } began).handleEach interim arrivals = (.ok (), c, interim'))
    (finished : c.finish ended summary d = (result, c', summary', d')) :
    process s began ended arrivals interim summary d = ⟨result, c', interim', summary', d'⟩ := by
  rw [process, handled, conclude, finished]

theorem process_failed {c : Collector} {interim interim' : Sink} {e : Error}
    (handled : (start { settings := s } began).handleEach interim arrivals =
      (.error e, c, interim')) (summary : Sink) :
    process s began ended arrivals interim summary d = ⟨.error e, c, interim', summary, d⟩ := by
  rw [process, handled, conclude]

end Latency.Collector

namespace Latency.Collection
open Collector

def arrivals : Option Ticker → Nat → List Event → List (Nat × Arrival)
  | _, _, [] => []
  | ticker, now, .batch observations :: rest =>
      (now, .batch observations) :: arrivals ticker now rest
  | none, now, .pass nanos :: rest => arrivals none (now + nanos) rest
  | some t, now, .pass nanos :: rest =>
      if t.due (now + nanos) then
        (now + nanos, .tick) :: arrivals (some (t.fire (now + nanos))) (now + nanos) rest
      else arrivals (some t) (now + nanos) rest

def ended (now : Nat) : List Event → Nat
  | [] => now
  | .batch _ :: rest => ended now rest
  | .pass nanos :: rest => ended (now + nanos) rest

/-- The collection once its collector has handled some arrivals, as it goes on. -/
def Handled (reported : Reported) (now : Nat) (s : Collection) : Prop :=
  s.collector = reported.2.1 ∧ s.interim = reported.2.2 ∧
    match reported.1 with
    | .ok () => s.failure? = none ∧ s.now = now
    | .error e => s.failure? = some e

theorem steps_failed {s : Collection} {e : Error} (failed : s.failure? = some e)
    (events : List Event) : events.foldl step s = s := by
  induction events with
  | nil => rfl
  | cons event rest ih =>
    have stays : s.step event = s := by simp only [step, failed, Option.isSome_some, if_true]
    rw [List.foldl_cons, stays, ih]

theorem steps_behind {s : Collection} (going : s.failure? = none) (a : Arrival) (rest : List Event)
    (more : ∀ {s : Collection}, s.failure? = none →
      Handled (s.collector.handleEach s.interim (arrivals s.ticker s.now rest)) (ended s.now rest)
        (rest.foldl step s)) :
    Handled (s.collector.handleEach s.interim ((s.now, a) :: arrivals s.ticker s.now rest))
      (ended s.now rest) (rest.foldl step (s.handle a)) := by
  rw [handleEach, handle]
  cases s.collector.handle s.now a s.interim with
  | mk result after =>
    obtain ⟨collector, interim⟩ := after
    cases result with
    | ok _ => exact more (s := { s with collector, interim }) going
    | error e =>
      rw [steps_failed (s := { s with collector, interim, failure? := some e }) rfl]
      exact ⟨rfl, rfl, rfl⟩

theorem steps_handle {s : Collection} (going : s.failure? = none) (events : List Event) :
    Handled (s.collector.handleEach s.interim (arrivals s.ticker s.now events))
      (ended s.now events) (events.foldl step s) := by
  induction events generalizing s with
  | nil => exact ⟨rfl, rfl, going, rfl⟩
  | cons event rest ih =>
    obtain ⟨collector, ticker, interim, now, failure?⟩ := s
    cases going
    cases event with
    | batch observations => exact steps_behind rfl (.batch observations) rest ih
    | pass nanos =>
      cases ticker with
      | none => exact ih (s := ⟨collector, none, interim, now + nanos, none⟩) rfl
      | some t =>
        rw [List.foldl_cons, arrivals]
        simp only [step, Option.isSome_none, Bool.false_eq_true, if_false, tick]
        split
        · exact steps_behind
            (s := ⟨collector, some (t.fire (now + nanos)), interim, now + nanos, none⟩) rfl .tick
            rest ih
        · exact ih (s := ⟨collector, some t, interim, now + nanos, none⟩) rfl

theorem finish_handled {reported : Reported} {now : Nat} {s : Collection}
    (handled : Handled reported now s) (summary : Sink) (d : Directory) :
    s.interim = (conclude now summary d reported).interim ∧
      s.finish summary d =
        ((conclude now summary d reported).result, (conclude now summary d reported).collector,
          (conclude now summary d reported).summary,
          (conclude now summary d reported).directory) := by
  obtain ⟨result, collector, interim⟩ := reported
  obtain ⟨collected, told, outcome⟩ := handled
  simp only at collected
  cases result with
  | ok _ =>
    obtain ⟨going, now⟩ := outcome
    rw [finish, going, collected, now]
    exact ⟨told, rfl⟩
  | error e =>
    have failed : s.failure? = some e := outcome
    rw [finish, failed, collected]
    exact ⟨told, rfl⟩

/-- A whole collection is the work on what comes of its events, whatever room its outputs have. -/
theorem collection_processes (settings : Settings) (interim summary : Sink) (d : Directory)
    (events : List Event) :
    ∃ p, p = process settings 0 (ended 0 events)
        (arrivals (settings.reportingPeriod.map fun d => .start d.nanos 0) 0 events)
        interim summary d ∧
      (events.foldl step (start settings interim)).interim = p.interim ∧
      (events.foldl step (start settings interim)).finish summary d =
        (p.result, p.collector, p.summary, p.directory) := by
  have handled := steps_handle (s := start settings interim) rfl events
  exact ⟨_, rfl, finish_handled handled summary d⟩

end Latency.Collection

end QueryBench
