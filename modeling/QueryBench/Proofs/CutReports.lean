import QueryBench.Proofs.Processing

/- Reports that run out of room. With outputs of limited room a collector does what it does with
   outputs that take everything, up to the first byte that does not fit, and stops there. -/
namespace QueryBench

namespace Sink

/-- A sink with room for `n` bytes has taken all that one without a limit has. -/
structure Follows (n : Nat) (free short : Sink) : Prop where
  unfailing : free.Unfailing
  same : short.accepted = free.accepted
  fits : free.accepted.size ≤ n
  room : short.room = some (n - free.accepted.size)
  flushed : short.flushFails = false

/-- A sink with room for `n` bytes has been sent more, and has taken what fits. -/
structure CutOff (n : Nat) (free short : Sink) : Prop where
  unfailing : free.Unfailing
  front : short.accepted.toList = free.accepted.toList.take n
  long : n < free.accepted.size

variable {n : Nat} {free short : Sink}

theorem follows_start (n : Nat) : Follows n {} { room := some n } where
  unfailing := ⟨rfl, rfl⟩
  same := rfl
  fits := Nat.zero_le n
  room := rfl
  flushed := rfl

theorem took_toList (s : Sink) (texts : List String) :
    (s.took texts).accepted.toList = s.accepted.toList ++ texts.flatMap Text.bytes := by
  simp [took]

theorem size_took (s : Sink) (texts : List String) :
    (s.took texts).accepted.size = s.accepted.size + (texts.flatMap Text.bytes).length := by
  rw [← Array.length_toList, took_toList, List.length_append, Array.length_toList]

theorem cutOff_took (cut : free.CutOff n short) (texts : List String) :
    (free.took texts).CutOff n short := by
  obtain ⟨unfailing, front, long⟩ := cut
  refine ⟨took_unfailing unfailing texts, ?_, ?_⟩
  · have inside : n ≤ free.accepted.toList.length := Nat.le_of_lt long
    rw [front, took_toList, List.take_append_of_le_length inside]
  · rw [size_took]
    omega

theorem writeText_follows (follows : free.Follows n short) (text : String) :
    (∃ short', short.writeText text = (.ok (), short') ∧ (free.took [text]).Follows n short') ∨
    ∃ short', short.writeText text = (.error .diskFull, short') ∧
      (free.took [text]).CutOff n short' := by
  obtain ⟨unfailing, same, fits, room, flushed⟩ := follows
  have size := size_took free [text]
  rw [List.flatMap_singleton] at size
  rw [writeText, write, room]
  by_cases enough : (Text.bytes text).length ≤ n - free.accepted.size
  · left
    simp only [if_pos enough]
    refine ⟨_, rfl, took_unfailing unfailing _, ?_, by omega, ?_, flushed⟩
    · simp only [same, took, List.flatMap_singleton]
    · simp only [size, Nat.sub_add_eq]
  · right
    simp only [if_neg enough]
    refine ⟨_, rfl, took_unfailing unfailing _, ?_, by omega⟩
    have whole : free.accepted.toList.take n = free.accepted.toList := List.take_of_length_le fits
    rw [took_toList, List.take_append, whole, List.flatMap_singleton, Array.length_toList]
    simp [same]

theorem put_follows (follows : free.Follows n short) (text : String) :
    (∃ short', short.put text = (.ok (), short') ∧ (free.took [text]).Follows n short') ∨
    ∃ short', short.put text = (.error .diskFull, short') ∧ (free.took [text]).CutOff n short' := by
  rcases writeText_follows follows text with ⟨short', wrote, still⟩ | ⟨short', cut, front⟩
  · left
    refine ⟨short', ?_, still⟩
    simp only [put, wrote, flush, still.flushed, Bool.false_eq_true, if_false]
  · right
    refine ⟨short', ?_, front⟩
    simp only [put, cut]

end Sink

namespace Latency.Collector

section Unfailing
variable {c : Collector} {sink : Sink} (free : sink.Unfailing)
include free

theorem burn_unfailing (now : Nat) (batch : List Observation) :
    ∃ c' texts, c.burn now batch sink = (.ok (), c', sink.took texts) := by
  simp only [burn, Sink.writeText_unfailing free]
  split
  · exact ⟨_, [], by rw [Sink.took_nil]⟩
  · exact ⟨_, _, rfl⟩

theorem handle_unfailing (now : Nat) (a : Arrival) :
    ∃ c' texts, c.handle now a sink = (.ok (), c', sink.took texts) := by
  cases a with
  | batch batch =>
    rw [handle, receive]
    split
    · exact burn_unfailing free now batch
    · obtain ⟨c', texts, done, -⟩ := takeAll_unfailing (c := c) free now batch
      exact ⟨c', texts, done⟩
  | tick =>
    obtain ⟨c', texts, done, -⟩ := tick_unfailing (c := c) free now
    exact ⟨c', texts, done⟩

theorem handleEach_unfailing (arrivals : List (Nat × Arrival)) :
    ∃ c' texts, c.handleEach sink arrivals = (.ok (), c', sink.took texts) := by
  induction arrivals generalizing c sink with
  | nil => exact ⟨c, [], by rw [Sink.took_nil, handleEach]⟩
  | cons first rest ih =>
    obtain ⟨now, a⟩ := first
    obtain ⟨between, texts, handled⟩ := handle_unfailing (c := c) free now a
    obtain ⟨c', more, ran⟩ := ih (c := between) (Sink.took_unfailing free texts)
    refine ⟨c', texts ++ more, ?_⟩
    rw [handleEach, handled]
    simp only [ran, Sink.took_took]

end Unfailing

/-- How an operation ends with room for `n` bytes beside how it ends with room for all: the same
way, or with a report that is cut off. -/
inductive Tracks (n : Nat) : Reported → Reported → Prop where
  | keeps {c : Collector} {free short : Sink} (follows : free.Follows n short) :
      Tracks n (.ok (), c, free) (.ok (), c, short)
  | stops {c c' : Collector} {free short : Sink} (cut : free.CutOff n short) :
      Tracks n (.ok (), c, free) (.error (.report .diskFull), c', short)

section Tracks
variable {n : Nat} {c : Collector} {free short : Sink} (follows : free.Follows n short)
include follows

theorem interim_tracks (now : Nat) : Tracks n (c.interim now free) (c.interim now short) := by
  rw [interim, interim, Sink.put_unfailing follows.unfailing]
  rcases Sink.put_follows follows (c.interimText now) with
    ⟨short', wrote, still⟩ | ⟨short', cut, front⟩
  · rw [wrote]
    exact .keeps still
  · rw [cut]
    exact .stops front

theorem take_tracks (now : Nat) (o : Observation) :
    Tracks n (c.take now o free) (c.take now o short) := by
  simp only [take]
  split
  · split
    · exact interim_tracks follows now
    · exact .keeps follows
  · exact .keeps follows

theorem tick_tracks (now : Nat) : Tracks n (c.tick now free) (c.tick now short) := by
  rw [tick, tick]
  split
  · exact interim_tracks follows now
  · exact .keeps follows

theorem takeAll_tracks (now : Nat) (batch : List Observation) :
    Tracks n (c.takeAll now free batch) (c.takeAll now short batch) := by
  induction batch generalizing c free short with
  | nil => exact .keeps follows
  | cons o rest ih =>
    have first := take_tracks (c := c) follows now o
    rw [takeAll, takeAll]
    generalize c.take now o free = one at first
    generalize c.take now o short = other at first
    cases first with
    | keeps still => exact ih still
    | @stops between _ free' _ cut =>
      obtain ⟨c', texts, ran, -⟩ := takeAll_unfailing (c := between) cut.unfailing now rest
      simp only [ran]
      exact .stops (Sink.cutOff_took cut texts)

theorem burn_tracks (now : Nat) (batch : List Observation) :
    Tracks n (c.burn now batch free) (c.burn now batch short) := by
  simp only [burn]
  split
  · exact .keeps follows
  · rw [Sink.writeText_unfailing follows.unfailing]
    rcases Sink.writeText_follows follows
        (Report.burnInComplete c.settings (c.burnedIn + counted batch)) with
      ⟨short', wrote, still⟩ | ⟨short', cut, front⟩
    · simp only [wrote]
      exact .keeps still
    · simp only [cut]
      exact .stops front

theorem handle_tracks (now : Nat) (a : Arrival) :
    Tracks n (c.handle now a free) (c.handle now a short) := by
  cases a with
  | batch batch =>
    rw [handle, handle, receive, receive]
    split
    · exact burn_tracks follows now batch
    · exact takeAll_tracks follows now batch
  | tick => exact tick_tracks follows now

theorem handleEach_tracks (arrivals : List (Nat × Arrival)) :
    Tracks n (c.handleEach free arrivals) (c.handleEach short arrivals) := by
  induction arrivals generalizing c free short with
  | nil => exact .keeps follows
  | cons first rest ih =>
    obtain ⟨now, a⟩ := first
    have handled := handle_tracks (c := c) follows now a
    rw [handleEach, handleEach]
    generalize c.handle now a free = one at handled
    generalize c.handle now a short = other at handled
    cases handled with
    | keeps still => exact ih still
    | @stops between _ free' _ cut =>
      -- the cut work ends here, and what the other one still writes is behind the cut
      obtain ⟨c', texts, ran⟩ := handleEach_unfailing (c := between) cut.unfailing rest
      simp only [ran]
      exact .stops (Sink.cutOff_took cut texts)

end Tracks

theorem writeLatencies_not_report (c : Collector) (d : Directory) (fault : Fault) :
    (c.writeLatencies d).1 ≠ .error (.report fault) := by
  intro failed
  unfold writeLatencies at failed
  split at failed
  · cases failed
  · split at failed
    · cases failed
    · cases failed

/-- The final report fits or is cut off. For any other reason the collector fails all the same. -/
theorem finish_follows {m : Nat} (c : Collector) (now : Nat) {free short : Sink}
    (follows : free.Follows m short) (d : Directory) :
    (∃ result c' free' short' d', c.finish now free d = (result, c', free', d') ∧
      c.finish now short d = (result, c', short', d') ∧ free'.Follows m short' ∧
      ∀ fault, result ≠ .error (.report fault)) ∨
    ∃ result c' c'' free' short' d', c.finish now free d = (result, c', free', d') ∧
      c.finish now short d = (.error (.report .diskFull), c'', short', d) ∧
      free'.CutOff m short' := by
  have put_ := Sink.put_unfailing follows.unfailing
  have other := writeLatencies_not_report { c with phase := .finalizing } d
  simp only [finish]
  generalize writeLatencies { c with phase := .finalizing } d = files at other
  obtain ⟨wrote?, d'⟩ := files
  rcases Sink.put_follows follows (finalText { c with phase := .finalizing } now) with
    ⟨short', wrote, still⟩ | ⟨short', cut, front⟩
  · left
    rw [put_, wrote]
    cases wrote? with
    | error e =>
      refine ⟨_, _, _, _, _, rfl, rfl, still, ?_⟩
      rintro fault ⟨⟩
      exact other fault rfl
    | ok _ =>
      refine ⟨_, _, _, _, _, rfl, rfl, still, ?_⟩
      rintro fault ⟨⟩
  · right
    rw [put_, cut]
    cases wrote? with
    | error e => exact ⟨_, _, _, _, _, _, rfl, rfl, front⟩
    | ok _ => exact ⟨_, _, _, _, _, _, rfl, rfl, front⟩

/-- What becomes of the work on these arrivals with outputs that have room for `n` and `m` bytes:
`short` is that work, `free` the one with outputs that take everything. -/
structure CutShort (n m : Nat) (d : Directory) (arrivals : List (Nat × Arrival))
    (free : Processed) (short : List (Nat × Arrival) → Processed) : Prop where
  done : (short arrivals).collector.phase = .done ↔ ∃ r, (short arrivals).result = .ok r
  fails : (∃ fault, (short arrivals).result = .error (.report fault)) ↔
    n < free.interim.accepted.size ∨ m < free.summary.accepted.size
  interim : n < free.interim.accepted.size →
    (short arrivals).result = .error (.report .diskFull) ∧
    (short arrivals).interim.accepted.toList = free.interim.accepted.toList.take n ∧
    (short arrivals).summary.accepted = #[] ∧ (short arrivals).directory = d ∧
    ∃ front last back seen, arrivals = front ++ last :: back ∧ seen <+: last.2.observations ∧
      (short arrivals).collector.queries = counted (received front ++ seen) ∧
      ∀ later, short (front ++ last :: later) = short arrivals
  summary : free.interim.accepted.size ≤ n → m < free.summary.accepted.size →
    (short arrivals).result = .error (.report .diskFull) ∧
    (short arrivals).interim.accepted = free.interim.accepted ∧
    (short arrivals).summary.accepted.toList = free.summary.accepted.toList.take m ∧
    (short arrivals).directory = d
  whole : free.interim.accepted.size ≤ n → free.summary.accepted.size ≤ m →
    (short arrivals).result = free.result ∧ (short arrivals).collector = free.collector ∧
    (short arrivals).interim.accepted = free.interim.accepted ∧
    (short arrivals).summary.accepted = free.summary.accepted ∧
    (short arrivals).directory = free.directory

variable {s : Settings} {began ended : Nat} {arrivals : List (Nat × Arrival)} {d : Directory}

theorem cutShort_interim {c c' : Collector} {n : Nat} {free short : Sink}
    (handled : (start { settings := s } began).handleEach {} arrivals = (.ok (), c, free))
    (handled' : (start { settings := s } began).handleEach { room := some n } arrivals =
      (.error (.report .diskFull), c', short)) (cut : free.CutOff n short) (m : Nat) :
    CutShort n m d arrivals (process s began ended arrivals {} {} d)
      (fun arrivals => process s began ended arrivals { room := some n } { room := some m } d) := by
  have done := process_done_iff s began ended arrivals d { room := some n } { room := some m }
  obtain ⟨-, cutShort, long⟩ := cut
  cases finished : c.finish ended {} d with
  | mk result rest =>
    obtain ⟨c'', summary, d'⟩ := rest
    have failed : process s began ended arrivals { room := some n } { room := some m } d = _ :=
      process_failed handled' { room := some m }
    have ran := process_ran handled finished
    have failing := congrArg Prod.fst handled'
    obtain ⟨front, last, back, seen, split, same, begins, queries⟩ := handleEach_fails failing
    rw [handled'] at queries same
    rw [ran]
    refine ⟨done, ?_, ?_, ?_, ?_⟩
    · rw [failed]
      exact iff_of_true ⟨_, rfl⟩ (.inl long)
    · intro _
      rw [failed]
      refine ⟨rfl, cutShort, rfl, rfl, front, last, back, seen, split, begins, ?_, ?_⟩
      · rw [queries, start, Nat.zero_add]
      · intro later
        exact process_failed (same later) { room := some m }
    · intro fits
      exact absurd long (Nat.not_lt.mpr fits)
    · intro fits
      exact absurd long (Nat.not_lt.mpr fits)

theorem cutShort_summary {c : Collector} {n : Nat} {free short : Sink}
    (handled : (start { settings := s } began).handleEach {} arrivals = (.ok (), c, free))
    (handled' : (start { settings := s } began).handleEach { room := some n } arrivals =
      (.ok (), c, short)) (follows : free.Follows n short) (m : Nat) :
    CutShort n m d arrivals (process s began ended arrivals {} {} d)
      (fun arrivals => process s began ended arrivals { room := some n } { room := some m } d) := by
  have done := process_done_iff s began ended arrivals d { room := some n } { room := some m }
  have fits := follows.fits
  rcases finish_follows c ended (Sink.follows_start m) d with
    ⟨result, c', free', short', d', finished, finished', follows', other⟩ |
    ⟨result, c', c'', free', short', d', finished, finished', cut⟩
  · have room := follows'.fits
    have ran := process_ran handled finished
    have ran' := process_ran handled' finished'
    rw [ran]
    refine ⟨done, ?_, ?_, ?_, ?_⟩
    · rw [ran']
      refine iff_of_false (fun ⟨fault, failed⟩ => other fault failed) ?_
      rintro (long | long)
      · exact absurd long (Nat.not_lt.mpr fits)
      · exact absurd long (Nat.not_lt.mpr room)
    · intro long
      exact absurd long (Nat.not_lt.mpr fits)
    · intro _ long
      exact absurd long (Nat.not_lt.mpr room)
    · intro _ _
      rw [ran']
      exact ⟨rfl, rfl, follows.same, follows'.same, rfl⟩
  · have long := cut.long
    have ran := process_ran handled finished
    have ran' := process_ran handled' finished'
    rw [ran]
    refine ⟨done, ?_, ?_, ?_, ?_⟩
    · rw [ran']
      exact iff_of_true ⟨_, rfl⟩ (.inr long)
    · intro long'
      exact absurd long' (Nat.not_lt.mpr fits)
    · intro _ _
      rw [ran']
      exact ⟨rfl, follows.same, cut.front, rfl⟩
    · intro _ room
      exact absurd long (Nat.not_lt.mpr room)

variable (s began ended arrivals d)

theorem process_cutShort (n m : Nat) :
    CutShort n m d arrivals (process s began ended arrivals {} {} d)
      (fun arrivals => process s began ended arrivals { room := some n } { room := some m } d) := by
  have tracks :=
    handleEach_tracks (c := start { settings := s } began) (Sink.follows_start n) arrivals
  generalize handled : (start { settings := s } began).handleEach {} arrivals = free at tracks
  generalize handled' :
    (start { settings := s } began).handleEach { room := some n } arrivals = short at tracks
  cases tracks with
  | keeps follows => exact cutShort_summary handled handled' follows m
  | stops cut => exact cutShort_interim handled handled' cut m

/-- With outputs of limited room a collector gets as far as the first report that does not fit: that
report is cut off where the room ends, and nothing is done behind it. If all reports fit, the work
is the same as with outputs that take everything. A collection at work is such a collector, and what
comes to it does not depend on its outputs. -/
theorem reports_run_out_of_room (s : Settings) (d : Directory) :
    (∀ began ended arrivals n m, CutShort n m d arrivals (process s began ended arrivals {} {} d)
      (fun arrivals => process s began ended arrivals { room := some n } { room := some m } d)) ∧
    ∀ (events : List Collection.Event) (interim summary : Sink),
      ∃ p, p = process s 0 (Collection.ended 0 events)
          (Collection.arrivals (s.reportingPeriod.map fun d => .start d.nanos 0) 0 events)
          interim summary d ∧
        (events.foldl Collection.step (Collection.start s interim)).interim = p.interim ∧
        (events.foldl Collection.step (Collection.start s interim)).finish summary d =
          (p.result, p.collector, p.summary, p.directory) := by
  constructor
  · intro began ended arrivals n m
    exact process_cutShort s began ended arrivals d n m
  · intro events interim summary
    exact Collection.collection_processes s interim summary d events

def burntOne : List (Nat × Arrival) := [(2, .batch [{ label := "q", value := 1 }])]

theorem burn_in_line_is_cut_off :
    ∃ free short, free = process { burnIn := 1 } 0 5 burntOne {} {} {} ∧
      short = process { burnIn := 1 } 0 5 burntOne { room := some 3 } { room := some 0 } {} ∧
      3 < free.interim.accepted.size ∧ short.result = .error (.report .diskFull) ∧
      short.interim.accepted.toList = free.interim.accepted.toList.take 3 ∧
      short.summary.accepted = #[] ∧ short.collector.phase ≠ .done := by
  have cut := (reports_run_out_of_room { burnIn := 1 } {}).1 0 5 burntOne 3 0
  have long : 3 < (process { burnIn := 1 } 0 5 burntOne {} {} {}).interim.accepted.size := by
    decide +kernel
  obtain ⟨failed, front, unwritten, -⟩ := cut.interim long
  refine ⟨_, _, rfl, rfl, long, failed, front, unwritten, ?_⟩
  intro done
  obtain ⟨r, ended⟩ := cut.done.mp done
  rw [failed] at ended
  cases ended

end Latency.Collector

end QueryBench
