import QueryBench.Proofs.Account
import QueryBench.Run.Schedule

/- No query is lost, repeated or miscounted: whatever the order of the moves, a run that ends well has
   made exactly the calls for the queries up to the limit, and its summary counts them. -/
namespace QueryBench.Run
open Latency

theorem check_workers {c : Config} (accepted : c.check = .ok ()) : 0 < c.workers := by
  unfold Config.check at accepted
  split at accepted
  · cases accepted
  · rename_i some_
    exact Nat.pos_of_ne_zero some_

namespace State
variable {c : Config} {x : Executor}

theorem start_accounted (positive : 0 < c.workers) {input : Source} {bs : List UInt8}
    {qs : List Query} (holds : input.Holds (Stream.identifier ++ bs)) (framed : Stream.Framed bs qs)
    (interim summary : Sink) (directory : Directory) :
    ∃ s, start c input interim summary directory = .ok s ∧ s.Accounted c qs 0 := by
  obtain ⟨rest, opened, left⟩ := Stream.Reader.start_identified holds
  refine ⟨_, by rw [start, opened], ?_⟩
  have nobody : ∀ w ∈ List.replicate c.workers ({} : Worker), w = {} := fun w member =>
    List.eq_of_mem_replicate member
  have idle : (List.replicate c.workers ({} : Worker)).flatMap Worker.taken = [] := by
    rw [List.flatMap_eq_nil_iff]
    intro w member
    rw [nobody w member]
    rfl
  refine ⟨.reading (Scan.at_start positive left framed), List.length_replicate,
    List.length_replicate, ?_, ?_, ?_, ?_, Collector.counts_start c.toSettings 0, ?_, ?_, ?_⟩
  · intro w member
    rw [nobody w member]
    rfl
  · rw [State.taken, idle]
    simp [numbered_zero]
  · have free : (List.replicate c.workers ({} : Worker)).countP Worker.busy = 0 := by
      rw [List.countP_eq_zero]
      intro w member
      rw [nobody w member]
      decide
    rw [State.taken, idle, free]
    rfl
  · intro batch member
    cases member
  · intro number w here ended
    rw [nobody w (List.mem_of_getElem? here)] at ended
    cases ended
  · intro r collected
    cases collected
  · intro r result
    cases result

/-- The one order of the scheduler is among all orders. -/
theorem goFrom_reached {s₀ s : State} (reached : s₀.Reached c x s) (fuel : Nat) (l : Looks) :
    s₀.Reached c x (s.goFrom c x fuel l) := by
  induction fuel generalizing s l with
  | zero => exact reached
  | succ fuel ih =>
    rw [goFrom]
    split
    · exact reached
    · split
      · exact reached
      · rename_i a s' moved
        exact ih (.step reached moved) _

theorem go_reached {s₀ s : State} (reached : s₀.Reached c x s) (fuel : Nat) :
    s₀.Reached c x (s.go c x fuel) := goFrom_reached reached fuel {}

theorem go_seen {α : Type} (look : State → α) {input : Source} {interim summary : Sink}
    {directory : Directory} {fuel : Nat} {seen : α}
    (saw : (start c input interim summary directory).toOption.map
      (fun s => look (s.go c x fuel)) = some seen) :
    ∃ s₀ s, start c input interim summary directory = .ok s₀ ∧ s₀.Reached c x s ∧
      look s = seen := by
  cases started : start c input interim summary directory with
  | error e =>
    rw [started] at saw
    cases saw
  | ok s₀ =>
    rw [started] at saw
    exact ⟨s₀, s₀.go c x fuel, rfl, go_reached .start fuel, Option.some.inj saw⟩

theorem accounted_calls {qs : List Query} {k : Nat} {s : State} (books : s.Accounted c qs k)
    (idle : ∀ w ∈ s.workers, w.ended = true) :
    s.workers.map (·.calls) = (s.workers.map Worker.taken).map (callsFor c.prewarm) := by
  rw [List.map_map]
  apply List.map_congr_left
  intro w member
  exact (Worker.sound_ended (books.sound w member) (idle w member)).2

end State

/-- Whatever the order in which scanner, workers and collector move, a run that ends well has handed
each of the first `m` queries, numbered in their order, to one worker, which called its executor for
it once, or twice in a row; and its summary counts them all. -/
theorem completed_run_is_exact (c : Config) (accepted : c.check = .ok ()) (x : Executor)
    (dutiful : x.Dutiful) (qs : List Query) (plain : ∀ q ∈ qs, Plain q.label) (input : Source)
    (bs : List UInt8) (framed : Stream.Framed bs qs) (clean : input.failure? = none)
    (content : Source.content input.deliveries = Stream.identifier ++ bs) (interim summary : Sink)
    (directory : Directory) :
    ∃ s₀, State.start c input interim summary directory = .ok s₀ ∧
      ∀ s r, s₀.Reached c x s → s.result = some (.ok r) →
        (∃ shares : List (List Query),
          s.workers.map (·.calls) = shares.map (callsFor c.prewarm) ∧
          shares.flatten.Perm (numbered (quota c.limit qs.length) qs)) ∧
        r.Tallies c.toSettings (quota c.limit qs.length) := by
  have positive := check_workers accepted
  obtain ⟨s₀, started, books⟩ := State.start_accounted positive ⟨clean, content⟩ framed interim
    summary directory
  refine ⟨s₀, started, ?_⟩
  intro s r reached done
  have straight : s.Straight c qs := by
    refine State.reached_invariant (.inr ⟨0, books⟩) ?_ reached
    intro before after running kept moves
    exact State.straight_moves positive dutiful plain running kept moves
  rcases straight with ⟨e, failed⟩ | ⟨k, books⟩
  · rw [done] at failed
    cases failed
  · obtain ⟨idle, tallies⟩ := books.told r (books.result r done)
    have dealt := (State.accounted_ended books positive idle).1
    refine ⟨⟨s.workers.map Worker.taken, State.accounted_calls books idle, ?_⟩, tallies⟩
    rwa [State.taken, List.flatMap_def] at dealt

theorem noop_dutiful (latency : Option Duration) (debug : Nat) (printResponses : Bool) :
    (Executor.noop latency debug printResponses).Dutiful where
  starts _ := rfl
  answers _ _ _ := .inl rfl

def rehearsal : Config := { workers := 2, burnIn := 1, prewarm := true, percentiles := [] }

def rehearsed : List Query := [{ label := "a" }, { label := "b", affinity := some "host_1" }]

def rehearsedBytes : List UInt8 := rehearsed.flatMap fun q => Stream.frame (Codec.encode q)

def State.ended (s : State) : Bool :=
  match s.result with
  | some (.ok _) => true
  | some (.error _) | none => false

theorem State.ended_result {s : State} (ended : s.ended = true) : ∃ r, s.result = some (.ok r) := by
  unfold State.ended at ended
  split at ended
  · rename_i r result
    exact ⟨r, result⟩
  · cases ended
  · cases ended

theorem rehearsal_is_exact :
    (rehearsal.check = .ok () ∧ (Executor.noop none 0 false).Dutiful ∧
      (∀ q ∈ rehearsed, Plain q.label) ∧ Stream.Framed rehearsedBytes rehearsed ∧
      Source.content (Source.ofBytes (Stream.encoded rehearsed)).deliveries =
        Stream.identifier ++ rehearsedBytes) ∧
      ∃ s₀ s r, State.start rehearsal (.ofBytes (Stream.encoded rehearsed)) {} {} {} = .ok s₀ ∧
        s₀.Reached rehearsal (.noop none 0 false) s ∧ s.result = some (.ok r) ∧
        (∃ shares : List (List Query), s.workers.map (·.calls) = shares.map (callsFor true) ∧
          shares.flatten.Perm (numbered 2 rehearsed)) ∧
        r.Tallies rehearsal.toSettings 2 := by
  have plain : ∀ q ∈ rehearsed, Plain q.label := by decide
  have framed : Stream.Framed rehearsedBytes rehearsed := Stream.framed_encoded (by decide)
  have holds := Source.ofBytes_holds (Stream.encoded rehearsed)
  have dutiful := noop_dutiful none 0 false
  obtain ⟨s₀, started, exact_⟩ := completed_run_is_exact rehearsal rfl _ dutiful rehearsed plain _ _
    framed holds.clean holds.content {} {} {}
  have all : (State.start rehearsal (.ofBytes (Stream.encoded rehearsed)) {} {} {}).toOption.map
      (fun s => (s.go rehearsal (.noop none 0 false) 80).ended) = some true := by decide +kernel
  rw [started] at all
  obtain ⟨r, done⟩ := State.ended_result (Option.some.inj all)
  have reached := State.go_reached (State.Reached.start : s₀.Reached rehearsal (.noop none 0 false) s₀) 80
  obtain ⟨calls, tallies⟩ := exact_ _ r reached done
  exact ⟨⟨rfl, dutiful, plain, framed, holds.content⟩, s₀, _, r, started, reached, done, calls,
    tallies⟩

end QueryBench.Run
