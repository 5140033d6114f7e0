import QueryBench.Proofs.Moves
import QueryBench.Proofs.Scan

/- A scan ahead of its workers. Workers that share a channel find all queries in it, in their order,
   if there is room for so many and the scan is through before the first of them moves. -/
namespace QueryBench.Run
open Latency

namespace State

def scanning (s : State) (scanner : Scanner) (queue : List Query) : State :=
  { s with scanner, channels := [queue] }

section Scanning
variable {c : Config} {x : Executor} {qs : List Query} {s : State} (positive : 0 < c.workers)
  (shared : c.routing = .shared) (fresh : s.workers = List.replicate c.workers {})
  (running : s.result = none)
include positive shared fresh

theorem scanning_somebody (scanner : Scanner) (queue : List Query) :
    (s.scanning scanner queue).abandoned c 0 = false := by
  have first : (({} : Worker), 0) ∈ s.workers.zipIdx := by
    rw [fresh, List.mk_mem_zipIdx_iff_getElem?, List.getElem?_replicate, if_pos positive]
  rw [abandoned, List.all_eq_false]
  exact ⟨({}, 0), first, by simp [shared, Routing.channelOf, Worker.ended]⟩

include running

theorem scanning_step {k : Nat} {before : Scan} (there : before.At c qs k)
    (more : k < quota c.limit qs.length) (room : k < c.workers) :
    ∃ after : Scan, after.At c qs (k + 1) ∧
      (s.scanning (.reading before) (numbered k qs)).Reached c x
        (s.scanning (.reading after) (numbered (k + 1) qs)) := by
  rcases Scan.step_at positive there with
    ⟨-, last⟩ | ⟨q, channel, after, next, found, inside, behind⟩
  · omega
  rw [shared] at inside
  obtain rfl : channel = 0 := Nat.lt_one_iff.mp inside
  have routing : before.routing = .shared := by
    have follows := there.routing
    rw [shared] at follows
    cases routing : before.routing with
    | shared => rfl
    | hashed next =>
      rw [routing] at follows
      cases follows
  -- the shared channel has a place for every worker
  have free : (numbered k qs).length < before.routing.room c.workers := by
    rw [routing, length_numbered (le_quota_iff.mp there.within).1]
    exact room
  have asked : (s.scanning (.reading before) (numbered k qs)).step? c x .scanner =
      some (s.scanning (.handing (numberedAs k q) 0 before after) (numbered k qs)) := by
    simp [step?, scan?, scanning, running, next]
  have handed : (s.scanning (.handing (numberedAs k q) 0 before after) (numbered k qs)).step? c x
      .scanner = some (s.scanning (.reading after) (numbered (k + 1) qs)) := by
    have somebody := scanning_somebody positive shared fresh
      (.handing (numberedAs k q) 0 before after) (numbered k qs)
    have going : (s.scanning (.handing (numberedAs k q) 0 before after)
      (numbered k qs)).result.isSome = false := by rw [scanning, running]; rfl
    rw [numbered_succ found, step?, going]
    simp only [scan?, scanning] at somebody ⊢
    simp [somebody, free, setChannel]
  exact ⟨after, behind, .step (.step .start asked) handed⟩

/-- As long as there is room, the scan goes on without the workers. -/
theorem scanning_reached {scan : Scan} (here : scan.At c qs 0) {k : Nat}
    (within : k ≤ quota c.limit qs.length) (room : k ≤ c.workers) :
    ∃ after : Scan, after.At c qs k ∧
      (s.scanning (.reading scan) []).Reached c x
        (s.scanning (.reading after) (numbered k qs)) := by
  induction k with
  | zero => exact ⟨scan, here, .start⟩
  | succ k ih =>
    obtain ⟨before, there, first⟩ := ih (Nat.le_of_succ_le within) (Nat.le_of_succ_le room)
    obtain ⟨after, behind, last⟩ :=
      scanning_step (x := x) positive shared fresh running there within room
    exact ⟨after, behind, reached_trans first last⟩

theorem scanning_finished {scan : Scan} (here : scan.At c qs 0)
    (room : quota c.limit qs.length ≤ c.workers) :
    (s.scanning (.reading scan) []).Reached c x
      (s.scanning (.finished (quota c.limit qs.length))
        (numbered (quota c.limit qs.length) qs)) := by
  obtain ⟨after, there, reached⟩ :=
    scanning_reached (x := x) positive shared fresh running here (Nat.le_refl _) room
  refine .step (a := .scanner) reached ?_
  rcases Scan.step_at positive there with ⟨last, -⟩ | ⟨q, channel, behind, next, -, -, at_⟩
  · simp [step?, scan?, scanning, running, last, there.scanned]
  · exact absurd at_.within (Nat.not_succ_le_self _)

end Scanning

def untouched (c : Config) (interim summary : Sink) (directory : Directory) : State where
  scanner := .finished 0
  channels := []
  workers := List.replicate c.workers {}
  collector := ({ settings := c.toSettings } : Collector).start 0
  ticker := c.reportingPeriod.map fun d => .start d.nanos 0
  interim
  summary
  directory

theorem start_finished {c : Config} (x : Executor) (positive : 0 < c.workers)
    (shared : c.routing = .shared) {input : Source} {bs : List UInt8} {qs : List Query}
    (holds : input.Holds (Stream.identifier ++ bs)) (framed : Stream.Framed bs qs)
    (room : quota c.limit qs.length ≤ c.workers) (interim summary : Sink) (directory : Directory) :
    ∃ s₀, start c input interim summary directory = .ok s₀ ∧
      s₀.Reached c x ((untouched c interim summary directory).scanning
        (.finished (quota c.limit qs.length)) (numbered (quota c.limit qs.length) qs)) := by
  obtain ⟨rest, opened, left⟩ := Stream.Reader.start_identified holds
  have left : (⟨rest, 0⟩ : Stream.Reader).source.Holds bs := left
  have here := Scan.at_start positive left framed
  refine ⟨_, ?_, scanning_finished positive shared rfl rfl here room⟩
  rw [start, opened, shared]
  rfl

end State

end QueryBench.Run
