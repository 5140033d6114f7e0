import Mathlib.Algebra.GroupWithZero.Nat
import QueryBench.Proofs.Journal

/- The interim reports of a collector whose sink takes every text. Some are asked for by the number of
   queries and some by the clock; whichever come, each covers the queries since the one before it. -/
namespace QueryBench.Latency

/-- The observations up to the one that is counted as number `m`. -/
def through : Nat → List Observation → List Observation
  | 0, _ => []
  | _ + 1, [] => []
  | m + 1, o :: rest => o :: through (if o.counted then m else m + 1) rest

theorem through_append {m : Nat} {os : List Observation} (within : m ≤ counted os)
    (more : List Observation) : through m (os ++ more) = through m os := by
  induction os generalizing m with
  | nil =>
    rw [Nat.le_zero.mp within]
    simp [through]
  | cons o rest ih =>
    cases m with
    | zero => simp [through]
    | succ m =>
      rw [counted_cons, counted_singleton] at within
      rw [List.cons_append, through, through]
      split
      · rename_i full
        rw [if_pos full] at within
        rw [ih (by omega)]
      · rename_i part
        rw [if_neg part] at within
        rw [ih (by omega)]

theorem through_counted {o : Observation} (full : o.counted = true) (os : List Observation) :
    through (counted os + 1) (os ++ [o]) = os ++ [o] := by
  induction os with
  | nil => simp [through, counted, full]
  | cons p rest ih =>
    rw [counted_cons, counted_singleton, List.cons_append, through]
    split
    · rw [Nat.add_comm 1, ih]
    · rw [Nat.zero_add, ih]

namespace Collector

/-- The numbers of queries at which a report is due, of those counted behind burn-in. -/
def dueNumbers (s : Settings) (burned queries : Nat) : List Nat :=
  (List.range (queries + 1)).filter fun n =>
    burned < n ∧ 0 < s.printInterval ∧ n % s.printInterval = 0 ∧ (s.limit = 0 ∨ n < s.limit)

theorem dueNumbers_succ (s : Settings) {burned queries : Nat} (behind : burned ≤ queries) :
    dueNumbers s burned (queries + 1) = dueNumbers s burned queries ++
      if 0 < s.printInterval ∧ (queries + 1) % s.printInterval = 0 ∧
        (s.limit = 0 ∨ queries + 1 < s.limit) then [queries + 1] else [] := by
  have beyond : burned < queries + 1 := by omega
  rw [dueNumbers, List.range_succ, List.filter_append, dueNumbers]
  simp [List.filter_cons, beyond]

theorem dueNumbers_self (s : Settings) (burned : Nat) : dueNumbers s burned burned = [] := by
  rw [dueNumbers, List.filter_eq_nil_iff]
  intro n member
  have inside := List.mem_range.mp member
  simp only [decide_eq_true_eq]
  omega

/-- Some reports of a collector that has seen these observations behind burn-in, which took so many
queries: each is about the queries since the one before it. -/
structure Tallied (s : Settings) (burned : Nat) (os : List Observation) (notes : List Note)
    (c : Collector) : Prop where
  settings : c.settings = s
  burnedIn : c.burnedIn = burned
  queries : c.queries = burned + counted os
  groups : c.groups = observeAll s.prewarm os []
  last : c.lastReportQueries = if burned < s.burnIn then 0 else Note.last burned notes
  within : Note.last burned notes ≤ c.queries
  sum : burned + (notes.map Note.interval).sum = Note.last burned notes
  rising : notes.Pairwise fun m n => m.queries < n.queries
  above : ∀ n ∈ notes, burned < n.queries ∧ n.queries ≤ Note.last burned notes
  since : ∀ n ∈ notes, n.since < n.queries
  shown : ∀ n ∈ notes, n.ticked = false →
    n.groups = observeAll s.prewarm (through (n.queries - burned) os) []

/-- All reports: at the numbers where they are due, and at ticks. -/
structure Booked (s : Settings) (burned : Nat) (os : List Observation) (notes : List Note)
    (c : Collector) : Prop extends Tallied s burned os notes c where
  printed : (notes.filter fun n => !n.ticked).map Note.queries = dueNumbers s burned c.queries

variable {s : Settings} {burned : Nat} {os : List Observation} {notes : List Note} {c : Collector}

theorem booked_nothing (settings : c.settings = s) (burnedIn : c.burnedIn = burned)
    (queries : c.queries = burned) (groups : c.groups = [])
    (last : c.lastReportQueries = if burned < s.burnIn then 0 else burned) :
    c.Booked s burned [] [] where
  settings := settings
  burnedIn := burnedIn
  queries := queries
  groups := groups
  last := last
  within := Nat.le_of_eq queries.symm
  sum := rfl
  rising := .nil
  above := by simp
  since := by simp
  shown := by simp
  printed := by rw [queries, dueNumbers_self]; rfl

theorem booked_fresh (s : Settings) (phase : Phase) (began : Nat) :
    (fresh s phase began).Booked s 0 [] [] :=
  booked_nothing rfl rfl rfl rfl (by simp [fresh])

theorem tallied_gathered (tallied : c.Tallied s burned os notes) (o : Observation) :
    (c.gathered [o]).Tallied s burned (os ++ [o]) notes := by
  obtain ⟨rfl, burnedIn, queries, groups, last, within, sum, rising, above, since, shown⟩ := tallied
  refine ⟨rfl, burnedIn, ?_, ?_, last, ?_, sum, rising, above, since, ?_⟩
  · rw [counted_append, ← Nat.add_assoc, ← queries]
    rfl
  · rw [observeAll_append, ← groups]
    rfl
  · exact Nat.le_trans within (Nat.le_add_right _ _)
  · intro n member printed
    have bound := (above n member).2
    rw [through_append (by omega)]
    exact shown n member printed

theorem tallied_reported (measuring : s.burnIn ≤ burned) (tallied : c.Tallied s burned os notes)
    (news : Note.last burned notes < c.queries) (now : Nat) {ticked : Bool}
    (whole : ticked = false → through (c.queries - burned) os = os) :
    (c.reported now).Tallied s burned os (notes ++ [c.note ticked now]) := by
  obtain ⟨settings, burnedIn, queries, groups, last, -, sum, rising, above, since, shown⟩ := tallied
  rw [if_neg (Nat.not_lt.mpr measuring)] at last
  refine ⟨settings, burnedIn, queries, groups, ?_, ?_, ?_, ?_, ?_, ?_, ?_⟩
  · rw [if_neg (Nat.not_lt.mpr measuring), Note.last_concat]
    rfl
  · rw [Note.last_concat]
    exact Nat.le_refl _
  · have interval : (c.note ticked now).interval = c.queries - Note.last burned notes := by
      rw [Note.interval, ← last]
      rfl
    have number : (c.note ticked now).queries = c.queries := rfl
    rw [Note.last_concat, List.map_append, List.sum_append, List.map_singleton, List.sum_singleton,
      interval, number]
    omega
  · refine List.pairwise_append.mpr ⟨rising, List.pairwise_singleton _ _, ?_⟩
    intro m member n same
    rw [List.mem_singleton.mp same]
    exact Nat.lt_of_le_of_lt (above m member).2 news
  · intro n member
    rw [Note.last_concat]
    rcases List.mem_append.mp member with before | same
    · obtain ⟨behind, bound⟩ := above n before
      exact ⟨behind, Nat.le_trans bound (Nat.le_of_lt news)⟩
    · rw [List.mem_singleton.mp same]
      exact ⟨by simp only [note]; omega, Nat.le_refl _⟩
  · intro n member
    rcases List.mem_append.mp member with before | same
    · exact since n before
    · rw [List.mem_singleton.mp same]
      simp only [note, last]
      exact news
  · intro n member printed
    rcases List.mem_append.mp member with before | same
    · exact shown n before printed
    · rw [List.mem_singleton.mp same] at printed ⊢
      simp only [note] at printed ⊢
      rw [whole printed]
      exact groups

theorem reportDue_iff (c : Collector) :
    c.reportDue = true ↔ 0 < c.settings.printInterval ∧ c.queries % c.settings.printInterval = 0 ∧
      (c.settings.limit = 0 ∨ c.queries < c.settings.limit) := by
  simp [reportDue, and_assoc]

theorem booked_one (measuring : s.burnIn ≤ burned) (booked : c.Booked s burned os notes) (now : Nat)
    (o : Observation) :
    (c.noteOne now o).1.Booked s burned (os ++ [o]) (notes ++ (c.noteOne now o).2) := by
  have tallied := tallied_gathered booked.toTallied o
  have behind : burned ≤ c.queries := by
    rw [booked.queries]
    exact Nat.le_add_right _ _
  have due := reportDue_iff (c.gathered [o])
  have printed := booked.printed
  simp only [noteOne]
  cases full : o.counted with
  | false =>
    -- the observation is not counted, so no number is reached
    have same : (c.gathered [o]).queries = c.queries := by
      rw [gathered, counted_singleton, full]
      rfl
    refine ⟨by simpa using tallied, ?_⟩
    simp [same, printed]
  | true =>
    have next : (c.gathered [o]).queries = c.queries + 1 := by
      rw [gathered, counted_singleton, full]
      rfl
    rw [tallied.settings, next] at due
    have numbers := dueNumbers_succ s behind
    by_cases told : (c.gathered [o]).reportDue = true
    · have news : Note.last burned notes < (c.gathered [o]).queries := by
        have within := booked.within
        omega
      have whole : through ((c.gathered [o]).queries - burned) (os ++ [o]) = os ++ [o] := by
        rw [next, booked.queries, Nat.add_assoc, Nat.add_sub_cancel_left]
        exact through_counted full os
      rw [if_pos (due.mp told), ← printed, ← next] at numbers
      simp only [told, Bool.and_self, if_true]
      refine ⟨tallied_reported measuring tallied news now fun _ => whole, ?_⟩
      rw [List.filter_append, List.map_append]
      exact numbers.symm
    · rw [if_neg fun should => told (due.mpr should), List.append_nil, ← printed, ← next] at numbers
      simp only [told, Bool.and_false, Bool.false_eq_true, if_false, List.append_nil]
      exact ⟨tallied, numbers.symm⟩

theorem hasNews_iff (measuring : s.burnIn ≤ burned) (tallied : c.Tallied s burned os notes) :
    c.hasNews = true ↔ Note.last burned notes < c.queries := by
  rw [hasNews, burningIn, tallied.settings, tallied.burnedIn, tallied.last,
    if_neg (Nat.not_lt.mpr measuring)]
  simp [measuring]

theorem booked_tick (measuring : s.burnIn ≤ burned) (booked : c.Booked s burned os notes)
    (now : Nat) :
    (c.noteArrival now .tick).1.Booked s burned os (notes ++ (c.noteArrival now .tick).2) := by
  rw [noteArrival]
  split
  · rename_i news
    have more := (hasNews_iff measuring booked.toTallied).mp news
    refine ⟨tallied_reported measuring booked.toTallied more now (by simp), ?_⟩
    rw [List.filter_append, List.map_append]
    simpa [note, reported] using booked.printed
  · simpa using booked

section Measuring
variable {sink : Sink} (free : sink.Unfailing) (measuring : s.burnIn ≤ burned)
  (booked : c.Booked s burned os notes)
include free measuring booked

theorem booked_all (now : Nat) (batch : List Observation) :
    c.takeAll now sink batch = (.ok (), (c.noteAll now batch).1,
        sink.took ((c.noteAll now batch).2.map (Note.text s))) ∧
      (c.noteAll now batch).1.Booked s burned (os ++ batch)
        (notes ++ (c.noteAll now batch).2) := by
  induction batch generalizing c os notes sink with
  | nil =>
    refine ⟨?_, by simpa [noteAll] using booked⟩
    rw [takeAll, noteAll, List.map_nil, Sink.took_nil]
  | cons o rest ih =>
    have taken := take_noted (c := c) free now o
    have first := booked_one measuring booked now o
    rw [booked.settings] at taken
    have still := Sink.took_unfailing free ((c.noteOne now o).2.map (Note.text s))
    obtain ⟨ran, more⟩ := ih still first
    refine ⟨?_, ?_⟩
    · rw [takeAll, taken]
      simp only [ran, noteAll, Sink.took_took, List.map_append]
    · rw [List.append_assoc, List.append_assoc] at more
      exact more

theorem booked_arrival (now : Nat) (a : Arrival) :
    c.handle now a sink = (.ok (), (c.noteArrival now a).1,
        sink.took ((c.noteArrival now a).2.map (Note.text s))) ∧
      (c.noteArrival now a).1.Booked s burned (os ++ a.observations)
        (notes ++ (c.noteArrival now a).2) := by
  cases a with
  | tick =>
    have ran := tick_noted (c := c) free now
    have ticked := booked_tick measuring booked now
    rw [booked.settings] at ran
    rw [Arrival.observations, List.append_nil]
    exact ⟨ran, ticked⟩
  | batch batch =>
    have through_ : c.burningIn = false := by
      rw [burningIn, booked.settings, booked.burnedIn]
      simp [measuring]
    rw [handle, receive, noteArrival, through_]
    exact booked_all free measuring booked now batch

theorem booked_each (arrivals : List (Nat × Arrival)) :
    c.handleEach sink arrivals = (.ok (), (c.noteEach arrivals).1,
        sink.took ((c.noteEach arrivals).2.map (Note.text s))) ∧
      (c.noteEach arrivals).1.Booked s burned (os ++ received arrivals)
        (notes ++ (c.noteEach arrivals).2) := by
  induction arrivals generalizing c os notes sink with
  | nil =>
    refine ⟨?_, by simpa [noteEach, received] using booked⟩
    rw [handleEach, noteEach, List.map_nil, Sink.took_nil]
  | cons first rest ih =>
    obtain ⟨now, a⟩ := first
    obtain ⟨handled, between⟩ := booked_arrival free measuring booked now a
    have still := Sink.took_unfailing free ((c.noteArrival now a).2.map (Note.text s))
    obtain ⟨ran, more⟩ := ih still between
    refine ⟨?_, ?_⟩
    · rw [handleEach, handled]
      simp only [ran, noteEach, Sink.took_took, List.map_append]
    · rw [received_cons]
      rw [List.append_assoc, List.append_assoc] at more
      exact more

end Measuring

theorem burnt_booked (booked : c.Booked s burned [] []) (burning : burned < s.burnIn) (now : Nat)
    (batch : List Observation) :
    (c.burnt now batch).Booked s (burned + counted batch) [] [] := by
  have last := booked.last
  rw [if_pos burning] at last
  have burnedIn : c.burnedIn + counted batch = burned + counted batch := by rw [booked.burnedIn]
  have queries : c.queries + counted batch = burned + counted batch := by
    rw [booked.queries]
    rfl
  have still : (c.burned (counted batch)).burningIn = true ↔ burned + counted batch < s.burnIn := by
    rw [burningIn_iff, Collector.burned, booked.settings, burnedIn]
  unfold burnt
  by_cases more : burned + counted batch < s.burnIn
  · rw [if_pos (still.mpr more)]
    refine booked_nothing booked.settings burnedIn queries booked.groups ?_
    rw [if_pos more]
    exact last
  · rw [if_neg (more ∘ still.mp)]
    refine booked_nothing booked.settings burnedIn queries booked.groups ?_
    rw [if_neg more]
    exact queries

section Burning
variable {sink : Sink} (free : sink.Unfailing)
include free

theorem booked_burning (booked : c.Booked s burned [] []) (burning : burned < s.burnIn) (now : Nat)
    (a : Arrival) :
    (c.noteArrival now a).2 = [] ∧
      (c.noteArrival now a).1.Booked s (burned + counted a.observations) [] [] ∧
      ∃ lines, c.handle now a sink = (.ok (), (c.noteArrival now a).1, sink.took lines) := by
  have still : c.burningIn = true := by
    rw [burningIn_iff, booked.settings, booked.burnedIn]
    exact burning
  cases a with
  | tick =>
    have silent : c.hasNews = false := by simp [hasNews, still]
    rw [noteArrival, silent]
    refine ⟨rfl, booked, [], ?_⟩
    rw [handle, tick, silent, Sink.took_nil]
    rfl
  | batch batch =>
    rw [noteArrival, if_pos still, handle, receive, if_pos still]
    exact ⟨rfl, burnt_booked booked burning now batch, burn_noted free now batch⟩

theorem booked_front (booked : c.Booked s burned [] []) (arrivals : List (Nat × Arrival))
    (burning : ∀ j < arrivals.length, burned + counted (received (arrivals.take j)) < s.burnIn) :
    (c.noteEach arrivals).2 = [] ∧
      (c.noteEach arrivals).1.Booked s (burned + counted (received arrivals)) [] [] ∧
      ∃ lines, c.handleEach sink arrivals =
        (.ok (), (c.noteEach arrivals).1, sink.took lines) := by
  induction arrivals generalizing c burned sink with
  | nil => exact ⟨rfl, booked, [], by rw [Sink.took_nil, handleEach, noteEach]⟩
  | cons first rest ih =>
    obtain ⟨now, a⟩ := first
    obtain ⟨silent, between, texts, handled⟩ :=
      booked_burning free booked (burning 0 (Nat.zero_lt_succ _)) now a
    have later : ∀ j < rest.length,
        burned + counted a.observations + counted (received (rest.take j)) < s.burnIn := by
      intro j before
      have within := burning (j + 1) (Nat.succ_lt_succ before)
      rwa [List.take_succ_cons, received_cons, counted_append, ← Nat.add_assoc] at within
    obtain ⟨quiet, behind, more, ran⟩ := ih (Sink.took_unfailing free texts) between later
    refine ⟨?_, ?_, texts ++ more, ?_⟩
    · simp only [noteEach, silent, quiet, List.append_nil]
    · rw [received_cons, counted_append, ← Nat.add_assoc]
      exact behind
    · rw [handleEach, handled]
      simp only [ran, noteEach, Sink.took_took]

end Burning

theorem burnInLength_burning (need : Nat) (arrivals : List (Nat × Arrival)) (j : Nat)
    (before : j < (arrivals.take (burnInLength need arrivals)).length) :
    counted (received ((arrivals.take (burnInLength need arrivals)).take j)) < need := by
  have within : j < burnInLength need arrivals := by
    rw [List.length_take] at before
    omega
  rw [List.take_take, Nat.min_eq_left (Nat.le_of_lt within)]
  rw [burnInLength] at within
  cases found : frontHolding? need arrivals with
  | none =>
    have few := frontHolding?_none found
    rw [← List.take_append_drop j arrivals, received_append, counted_append] at few
    omega
  | some k =>
    rw [found, Option.getD_some] at within
    exact (frontHolding?_some found).2.2 j within

/-- The queries that burn-in takes. -/
def burnedQueries (s : Settings) (arrivals : List (Nat × Arrival)) : Nat :=
  counted (received (arrivals.take (burnInLength s.burnIn arrivals)))

/-- The observations behind burn-in, in their order. -/
def keptObservations (s : Settings) (arrivals : List (Nat × Arrival)) : List Observation :=
  received (arrivals.drop (burnInLength s.burnIn arrivals))

/-- A fresh collector writes the line at the end of burn-in and the reports of its journal, and its
books are straight. -/
theorem fresh_booked {sink : Sink} (free : sink.Unfailing) (s : Settings) (phase : Phase)
    (began : Nat) (arrivals : List (Nat × Arrival)) :
    (fresh s phase began).handleEach sink arrivals =
        (.ok (), ((fresh s phase began).noteEach arrivals).1, sink.took (burnInLines s arrivals ++
          ((fresh s phase began).journal arrivals).map (Note.text s))) ∧
      ((fresh s phase began).noteEach arrivals).1.Booked s (burnedQueries s arrivals)
        (keptObservations s arrivals) ((fresh s phase began).journal arrivals) := by
  have burning := burnInLength_burning s.burnIn arrivals
  have ends := burnIn_enough_or_all s.burnIn arrivals
  obtain ⟨middle, burned, -⟩ := handleEach_front free s phase began arrivals
  rw [burnedQueries, keptObservations, journal]
  generalize burnInLength s.burnIn arrivals = k at *
  obtain ⟨silent, between, lines, ran⟩ := booked_front free (booked_fresh s phase began)
    (arrivals.take k) (by simpa using burning)
  rw [Nat.zero_add] at between
  have split := noteEach_append (fresh s phase began) (arrivals.take k) (arrivals.drop k)
  rw [List.take_append_drop, silent, List.nil_append] at split
  -- both runs of the front end in the same collector and have written the same
  rw [ran] at burned
  obtain ⟨rfl, same⟩ : ((fresh s phase began).noteEach (arrivals.take k)).1 = middle ∧
      sink.took lines = sink.took (burnInLines s arrivals) := by simpa using burned
  rw [same] at ran
  have both := handleEach_append ran (arrivals.drop k)
  rw [List.take_append_drop] at both
  rw [split, both]
  rcases ends with enough | nothing
  · obtain ⟨measured, books⟩ := booked_each (Sink.took_unfailing free (burnInLines s arrivals))
      enough between (arrivals.drop k)
    rw [measured, Sink.took_took]
    exact ⟨rfl, by simpa using books⟩
  · rw [nothing]
    exact ⟨by simp [handleEach, noteEach], by simpa [noteEach, received] using between⟩

theorem booked_last (booked : c.Booked s burned os notes) : c.lastReportQueries ≤ c.queries := by
  rw [booked.last]
  split
  · exact Nat.zero_le _
  · exact booked.within

theorem booked_ticked (booked : c.Booked s burned os notes) (now : Nat) :
    (c.noteArrival now .tick).2 =
      if s.burnIn ≤ burned ∧ Note.last burned notes < c.queries then [c.note true now] else [] := by
  rw [noteArrival]
  by_cases measuring : s.burnIn ≤ burned
  · have news := hasNews_iff measuring booked.toTallied
    by_cases more : Note.last burned notes < c.queries
    · rw [if_pos (news.mpr more), if_pos ⟨measuring, more⟩]
    · rw [if_neg (more ∘ news.mp), if_neg (more ∘ And.right)]
  · have burning : c.burningIn = true := by
      rw [burningIn_iff, booked.settings, booked.burnedIn]
      exact Nat.lt_of_not_le measuring
    have silent : c.hasNews = false := by simp [hasNews, burning]
    rw [silent, if_neg (measuring ∘ And.left)]
    rfl

/-- Whatever arrives in whatever order, the reports are written at rising numbers of queries, all
behind burn-in. Those that the number of queries asks for are written once at each number that is due,
and show the observations up to it. A tick adds a report just where a query was counted since the last
one, and every query behind burn-in is in the interval of one report or still to be reported. -/
theorem reports_cover_the_queries (s : Settings) (phase : Phase) (began : Nat)
    (arrivals : List (Nat × Arrival)) (sink : Sink) (free : sink.Unfailing) :
    ∃ c notes, (fresh s phase began).journal arrivals = notes ∧
      (fresh s phase began).handleEach sink arrivals =
        (.ok (), c, sink.took (burnInLines s arrivals ++ notes.map (Note.text s))) ∧
      c.burnedIn = burnedQueries s arrivals ∧ c.queries = counted (received arrivals) ∧
      c.lastReportQueries ≤ c.queries ∧
      (∀ n ∈ notes, n.since < n.queries ∧ c.burnedIn < n.queries) ∧
      (notes.Pairwise fun m n => m.queries < n.queries) ∧
      (notes.filter fun n => !n.ticked).map Note.queries = dueNumbers s c.burnedIn c.queries ∧
      (∀ n ∈ notes, n.ticked = false → n.groups = observeAll s.prewarm
        (through (n.queries - c.burnedIn) (keptObservations s arrivals)) []) ∧
      (∀ now, (fresh s phase began).journal (arrivals ++ [(now, .tick)]) = notes ++
        if s.burnIn ≤ c.burnedIn ∧ Note.last c.burnedIn notes < c.queries then
          [c.note true now] else []) ∧
      (notes.map Note.interval).sum + (c.queries - Note.last c.burnedIn notes) =
        c.queries - c.burnedIn := by
  obtain ⟨ran, booked⟩ := fresh_booked free s phase began arrivals
  have last := booked_last booked
  have seen : ((fresh s phase began).noteEach arrivals).1.queries = counted (received arrivals) := by
    rw [booked.queries, burnedQueries, keptObservations, ← counted_append, ← received_append,
      List.take_append_drop]
  refine ⟨_, _, rfl, ran, booked.burnedIn, seen, last, ?_⟩
  rw [booked.burnedIn]
  refine ⟨?_, booked.rising, booked.printed, booked.shown, ?_, ?_⟩
  · intro n member
    exact ⟨booked.since n member, (booked.above n member).1⟩
  · intro now
    rw [journal, noteEach_append, ← booked_ticked booked now]
    simp only [noteEach, List.append_nil]
    rfl
  · have sum := booked.sum
    have within := booked.within
    omega

theorem warmUp_reports :
    ({} : Sink).Unfailing ∧
      ∃ c notes,
        (fresh { burnIn := 3, printInterval := 3 } .idle 0).handleEach {}
            (warmUp ++ [(7, .batch [{ label := "b", value := 7 }])]) =
          (.ok (), c, ({} : Sink).took
            (burnInLines { burnIn := 3, printInterval := 3 }
                (warmUp ++ [(7, .batch [{ label := "b", value := 7 }])]) ++
              notes.map (Note.text { burnIn := 3, printInterval := 3 }))) ∧
        c.burnedIn = 4 ∧ c.queries = 6 ∧
        (notes.filter fun n => !n.ticked).map Note.queries = [6] ∧
        (notes.map Note.interval).sum + (6 - Note.last 4 notes) = 2 := by
  have free : ({} : Sink).Unfailing := ⟨rfl, rfl⟩
  obtain ⟨c, notes, -, ran, burned, queries, -, -, -, printed, -, -, sum⟩ :=
    reports_cover_the_queries { burnIn := 3, printInterval := 3 } .idle 0
      (warmUp ++ [(7, .batch [{ label := "b", value := 7 }])]) {} free
  have burned : c.burnedIn = 4 := by
    rw [burned]
    decide
  have queries : c.queries = 6 := by
    rw [queries]
    decide
  rw [burned, queries] at printed sum
  exact ⟨free, c, notes, ran, burned, queries, printed.trans (by decide), sum⟩

end Collector

end QueryBench.Latency
