import QueryBench.Proofs.Collector
import QueryBench.Proofs.Directory
import QueryBench.Proofs.Moves

/- How a run goes on and ends. In whatever order its parts move, its phases follow one another, it is
   done just if everything succeeded, and its results are written at the very end. -/
namespace QueryBench.Run
open Latency

/-- The phases in their order. -/
inductive Phase.Next : Phase → Phase → Prop
  | run : Next .created .running
  | drain : Next .running .draining
  | finish : Next .draining .done

/-- Everything went well, and only the results could not be written. -/
def Error.late : Error → Bool
  | .resultsFile _ _ => true
  | .config _ | .decode _ | .executorStart _ _ | .execution _ _ _ | .collection _ => false

/-- The files of a run that has written no results. At most the latencies were written, where a path
leads to the file for them. -/
def LeftAlone (c : Config) (d₀ d : Directory) : Prop :=
  ∀ path, d.file? path = d₀.file? path ∨
    ∃ latencies, c.latenciesFile = some latencies ∧ d₀.SameFile latencies path ∧
      ∃ collector : Collector, d.file? path = some (Text.bytes collector.ladderText)

theorem leftAlone_refl (c : Config) (d : Directory) : LeftAlone c d d := fun _ => .inl rfl

theorem leftAlone_latencies {c : Config} {collector : Collector}
    (settings : collector.settings = c.toSettings) (d : Directory) :
    LeftAlone c d (collector.writeLatencies d).2 := by
  unfold Collector.writeLatencies
  rw [settings]
  split
  · exact leftAlone_refl c d
  · rename_i latencies file
    intro path
    have written := Directory.write_file? d latencies (Text.bytes collector.ladderText) path
    cases result : d.write latencies (Text.bytes collector.ladderText) with
    | mk outcome after =>
      rw [result] at written
      cases outcome with
      | error _ | ok _ =>
        rcases written with same | ⟨leads, found⟩
        · exact .inl same
        · exact .inr ⟨latencies, file, leads, collector, found⟩

theorem leftAlone_finish {c : Config} {collector : Collector}
    (settings : collector.settings = c.toSettings) (now : Nat) (sink : Sink) (d : Directory) :
    LeftAlone c d (collector.finish now sink d).2.2.2 := by
  have left := @leftAlone_latencies c { collector with phase := .finalizing } settings d
  simp only [Collector.finish]
  split
  · exact leftAlone_refl c d
  · split
    all_goals
      rename_i latencies
      rw [latencies] at left
      exact left

theorem receive_settings {c c' : Collector} {now : Nat} {batch : List Observation}
    {sink sink' : Sink} (done : c.receive now batch sink = (.ok (), c', sink')) :
    c'.settings = c.settings := by
  rw [Collector.receive] at done
  split at done
  · have kept := Collector.burn_kept c now batch sink
    rw [done] at kept
    exact kept.settings
  · exact (Collector.takeAll_kept done).settings

namespace State

/-- The scan, all workers and the collector have come to their ends, and none of them failed. -/
structure Succeeded (s : State) : Prop where
  scan : ∃ n, s.scanner = .finished n
  workers : ∀ w ∈ s.workers, w.state = .finished
  collection : s.collected.isSome = true

/-- What holds of a run with the files `d₀` as long as it goes on. -/
structure Going (c : Config) (d₀ : Directory) (s : State) : Prop where
  open_ : s.result = none
  phase : s.phase = if s.scanJoined then .draining else .running
  scanned : s.scanJoined = true → ∃ n, s.scanner = .finished n
  joined : ∀ w ∈ s.workers, w.joined = true → w.state = .finished
  causes : ∀ w ∈ s.workers, ∀ e, w.state = .failed e → e.late = false
  collected : s.collected.isSome = true → s.pending = [] ∧ ∀ w ∈ s.workers, w.ended = true
  settings : s.collector.settings = c.toSettings
  untouched : s.collected = none → s.directory = d₀
  files : LeftAlone c d₀ s.directory

/-- What holds of it once it is over. -/
inductive Over (c : Config) (d₀ : Directory) (s : State) : Prop
  | well {r : RunSummary} (result : s.result = some (.ok r)) (phase : s.phase = .done)
      (succeeded : s.Succeeded)
  | late {e : Error} (result : s.result = some (.error e)) (late : e.late = true)
      (phase : s.phase = .done) (succeeded : s.Succeeded)
  | failed {e : Error} (result : s.result = some (.error e)) (early : e.late = false)
      (phase : s.phase ≠ .done) (failed : ¬ s.Succeeded) (files : LeftAlone c d₀ s.directory)

def Orderly (c : Config) (d₀ : Directory) (s : State) : Prop := s.Going c d₀ ∨ s.Over c d₀

variable {c : Config} {x : Executor} {d₀ : Directory} {s₀ s s' : State}

theorem going_not_done (going : s.Going c d₀) : s.phase ≠ .done := by
  rw [going.phase]
  split
  · decide
  · decide

theorem going_unjoined (going : s.Going c d₀) (open_ : ∀ n, s.scanner ≠ .finished n) :
    s.scanJoined = false := by
  cases joined : s.scanJoined with
  | false => rfl
  | true =>
    obtain ⟨n, finished⟩ := going.scanned joined
    exact absurd finished (open_ n)

theorem going_scanner (going : s.Going c d₀) (open_ : ∀ n, s.scanner ≠ .finished n)
    (scanner : Scanner) : { s with scanner }.Going c d₀ := by
  have unjoined := going_unjoined going open_
  refine { going with scanned := ?_ }
  intro joined
  rw [unjoined] at joined
  cases joined

/-- States that agree in all that is kept of a run, but for its workers and what waits. -/
structure Aside (s s' : State) : Prop where
  result : s'.result = s.result
  phase : s'.phase = s.phase
  scanJoined : s'.scanJoined = s.scanJoined
  scanner : s'.scanner = s.scanner
  collected : s'.collected = s.collected
  settings : s'.collector.settings = s.collector.settings
  directory : s'.directory = s.directory

/-- A worker that has not ended goes on, or fails. -/
theorem going_worker (going : s.Going c d₀) (aside : Aside s s') {number : Nat} {w w' : Worker}
    (here : s.workers[number]? = some w) (working : w.ended = false)
    (moved : s'.workers = s.workers.set number w') (joined : w'.joined = w.joined)
    (causes : ∀ e, w'.state = .failed e → e.late = false) : s'.Going c d₀ := by
  have inside := List.mem_of_getElem? here
  have unjoined : w.joined = false := by
    cases yes : w.joined with
    | false => rfl
    | true =>
      rw [Worker.ended, going.joined w inside yes] at working
      cases working
  have uncollected : s.collected = none := by
    cases told : s.collected with
    | none => rfl
    | some r =>
      have ended := (going.collected (by rw [told]; rfl)).2 w inside
      rw [working] at ended
      cases ended
  obtain ⟨result, phase, scanJoined, scanner, collected, settings, directory⟩ := aside
  refine ⟨result.trans going.open_, by rw [phase, scanJoined, going.phase], ?_, ?_, ?_, ?_,
    settings.trans going.settings, ?_, directory ▸ going.files⟩
  · rw [scanJoined, scanner]
    exact going.scanned
  · rw [moved]
    intro v member yes
    rcases List.mem_or_eq_of_mem_set member with before | rfl
    · exact going.joined v before yes
    · rw [joined, unjoined] at yes
      cases yes
  · rw [moved]
    intro v member e failed
    rcases List.mem_or_eq_of_mem_set member with before | rfl
    · exact going.causes v before e failed
    · exact causes e failed
  · intro told
    rw [collected, uncollected] at told
    cases told
  · intro _
    rw [directory]
    exact going.untouched uncollected

theorem over_collection (going : s.Going c d₀) (first : s.collected = none)
    {e : Latency.Error} (result : s'.result = some (.error (.collection e)))
    (phase : s'.phase = s.phase) (collected : s'.collected = s.collected)
    (files : LeftAlone c d₀ s'.directory) : s'.Over c d₀ := by
  refine .failed result rfl (phase ▸ going_not_done going) ?_ files
  intro succeeded
  have told := succeeded.collection
  rw [collected, first] at told
  cases told

theorem orderly_afterCollecting (going : s.Going c d₀) (first : s.collected = none)
    {reported : Collector.Reported}
    (settings : ∀ collector interim, reported = (.ok (), collector, interim) →
      collector.settings = s.collector.settings) :
    (s.afterCollecting reported).Orderly c d₀ := by
  obtain ⟨result, collector, interim⟩ := reported
  cases result with
  | ok u =>
    exact .inl { going with settings := (settings collector interim rfl).trans going.settings }
  | error e => exact .inr (over_collection going first rfl rfl rfl going.files)

theorem going_succeeded (going : s.Going c d₀) {r : RunSummary} (collected : s.collected = some r)
    (scanned : s.scanJoined = true) (joined : s.workers.all Worker.joined = true) :
    s.Succeeded := by
  refine ⟨going.scanned scanned, ?_, by rw [collected]; rfl⟩
  intro w member
  exact going.joined w member (List.all_eq_true.mp joined w member)

theorem orderly_moves (going : s.Going c d₀) (moves : s.Moves c x s') : s'.Orderly c d₀ := by
  -- the collector finishes behind the last batch, so nothing comes once it has
  have quiet : s.pending ≠ [] → s.collected = none := by
    intro waiting
    cases told : s.collected with
    | none => rfl
    | some r => exact absurd (going.collected (by rw [told]; rfl)).1 waiting
  cases moves with
  | @found scan after query channel reading next =>
    exact .inl (going_scanner going (by simp [reading]) _)
  | @exhausted scan reading next => exact .inl (going_scanner going (by simp [reading]) _)
  | @unreadable scan e reading next => exact .inl (going_scanner going (by simp [reading]) _)
  | @deserted query channel before after handing nobody =>
    exact .inl (going_scanner going (by simp [handing]) _)
  | @handed query channel before after handing somebody room =>
    have moved := going_scanner going (by simp [handing]) (.reading after)
    exact .inl { moved with }
  | started here state | took here state | ended here state | called here state
  | calledAlone here state | repeated here state | answered here state | sent here state =>
    exact .inl (going_worker going ⟨rfl, rfl, rfl, rfl, rfl, rfl, rfl⟩ here
      (by rw [Worker.ended, state]) rfl rfl (by simp))
  | refused here state | broke here state =>
    refine .inl (going_worker going ⟨rfl, rfl, rfl, rfl, rfl, rfl, rfl⟩ here
      (by rw [Worker.ended, state]) rfl rfl ?_)
    rintro e ⟨⟩
    rfl
  | @received batch rest reported waiting result =>
    have first := quiet (by rw [waiting]; exact List.cons_ne_nil _ _)
    have less : { s with pending := rest }.Going c d₀ := by
      refine { going with collected := ?_ }
      intro told
      rw [first] at told
      cases told
    apply orderly_afterCollecting less first
    rintro collector interim rfl
    exact receive_settings result
  | @collected r collector summary directory nothing idle first done =>
    have kept := Collector.finish_kept s.collector s.clock s.summary s.directory
    have left := leftAlone_finish going.settings s.clock s.summary s.directory
    rw [done] at kept left
    rw [going.untouched first] at left
    refine .inl { going with
      collected := fun _ => ⟨nothing, by simpa using idle⟩
      settings := kept.settings.trans going.settings
      untouched := ?_
      files := left }
    intro none_
    cases none_
  | @uncollected e collector summary directory nothing idle first done =>
    have left := leftAlone_finish going.settings s.clock s.summary s.directory
    rw [done, going.untouched first] at left
    exact .inr (over_collection going first rfl rfl rfl left)
  | @ticked t reported ticker due collecting result =>
    have ticked : { s with ticker := some (t.fire s.clock) }.Going c d₀ := { going with }
    apply orderly_afterCollecting ticked collecting
    rintro collector interim rfl
    have kept := Collector.tick_kept s.collector s.clock s.interim
    rw [result] at kept
    exact kept.settings
  | passed later => exact .inl { going with }
  | @joinedScan scanned running closed =>
    exact .inl { going with phase := rfl, scanned := fun _ => ⟨scanned, closed⟩ }
  | @lostScan e running closed =>
    have early : s.phase ≠ .done := going_not_done going
    refine .inr (.failed rfl rfl early ?_ going.files)
    intro succeeded
    obtain ⟨n, finished⟩ := succeeded.scan
    rw [fail, closed] at finished
    cases finished
  | @joinedWorker number w here running closed =>
    have inside := List.mem_of_getElem? here
    refine .inl { going with joined := ?_, causes := ?_, collected := ?_ }
    · intro v member yes
      rcases List.mem_or_eq_of_mem_set member with before | rfl
      · exact going.joined v before yes
      · exact closed
    · intro v member e failed
      rcases List.mem_or_eq_of_mem_set member with before | rfl
      · exact going.causes v before e failed
      · exact going.causes w inside e failed
    · intro told
      obtain ⟨nothing, ended⟩ := going.collected told
      refine ⟨nothing, ?_⟩
      intro v member
      rcases List.mem_or_eq_of_mem_set member with before | rfl
      · exact ended v before
      · exact ended w inside
  | @lostWorker number w e here running closed =>
    have inside := List.mem_of_getElem? here
    have early : s.phase ≠ .done := going_not_done going
    refine .inr (.failed rfl (going.causes w inside e closed) early ?_ going.files)
    intro succeeded
    have finished := succeeded.workers w inside
    rw [closed] at finished
    cases finished
  | completed collected scanned joined silent =>
    obtain ⟨scan, workers, told⟩ := going_succeeded going collected scanned joined
    exact .inr (.well rfl rfl ⟨scan, workers, told⟩)
  | written collected scanned joined file done =>
    obtain ⟨scan, workers, told⟩ := going_succeeded going collected scanned joined
    exact .inr (.well rfl rfl ⟨scan, workers, told⟩)
  | unwritten collected scanned joined file failed =>
    obtain ⟨scan, workers, told⟩ := going_succeeded going collected scanned joined
    exact .inr (.late rfl rfl rfl ⟨scan, workers, told⟩)

theorem moves_phase (going : s.Going c d₀) (moves : s.Moves c x s') :
    s'.phase = s.phase ∨ s.phase.Next s'.phase := by
  have finishing : s.scanJoined = true → s.phase.Next .done := by
    intro scanned
    rw [going.phase, if_pos scanned]
    exact .finish
  cases moves with
  | joinedScan running closed =>
    rw [going.phase, running]
    exact .inr .drain
  | completed collected scanned joined silent => exact .inr (finishing scanned)
  | written collected scanned joined file done => exact .inr (finishing scanned)
  | unwritten collected scanned joined file failed => exact .inr (finishing scanned)
  | received waiting result => exact .inl (afterCollecting_phase _ _)
  | ticked ticker due collecting result => exact .inl (afterCollecting_phase _ _)
  | found | exhausted | unreadable | deserted | handed | started | refused | took | ended | called
  | calledAlone | broke | repeated | answered | sent | collected | uncollected | passed | lostScan
  | joinedWorker | lostWorker => exact .inl rfl

theorem orderly_over (orderly : s.Orderly c d₀) {outcome : Except Error RunSummary}
    (ended : s.result = some outcome) : s.Over c d₀ := by
  rcases orderly with going | past
  · rw [going.open_] at ended
    cases ended
  · exact past

theorem orderly_going (orderly : s.Orderly c d₀) (running : s.result = none) : s.Going c d₀ := by
  rcases orderly with going | past
  · exact going
  · cases past with
    | well result | late result | failed result =>
      rw [running] at result
      cases result

theorem over_done_iff (past : s.Over c d₀) : s.phase = .done ↔ s.Succeeded := by
  cases past with
  | well result phase succeeded => exact iff_of_true phase succeeded
  | late result late phase succeeded => exact iff_of_true phase succeeded
  | failed result early phase failed files => exact iff_of_false phase failed

theorem over_well (past : s.Over c d₀) {r : RunSummary} (done : s.result = some (.ok r)) :
    s.phase = .done ∧ s.Succeeded := by
  cases past with
  | well result phase succeeded => exact ⟨phase, succeeded⟩
  | late result | failed result =>
    rw [done] at result
    cases result

theorem over_late_iff (past : s.Over c d₀) {e : Error} (failed : s.result = some (.error e)) :
    s.phase = .done ↔ e.late = true := by
  cases past with
  | well result =>
    rw [failed] at result
    cases result
  | late result late phase =>
    rw [failed] at result
    cases result
    exact iff_of_true phase late
  | failed result early phase =>
    rw [failed] at result
    cases result
    exact iff_of_false phase (by rw [early]; decide)

theorem orderly_files (orderly : s.Orderly c d₀) (undone : s.phase ≠ .done) :
    LeftAlone c d₀ s.directory := by
  rcases orderly with going | past
  · exact going.files
  · cases past with
    | well result phase | late result late phase => exact absurd phase undone
    | failed result early phase failed files => exact files

theorem start_eq {input : Source} {interim summary : Sink} {directory : Directory}
    (started : start c input interim summary directory = .ok s₀) :
    s₀.phase = .running ∧ s₀.Going c directory ∧ s₀.workers = List.replicate c.workers {} := by
  unfold start at started
  split at started
  · cases started
  · cases started
    have fresh : ∀ w ∈ List.replicate c.workers ({} : Worker), w = {} := fun w member =>
      List.eq_of_mem_replicate member
    refine ⟨rfl, ⟨rfl, rfl, nofun, ?_, ?_, nofun, rfl, fun _ => rfl, leftAlone_refl c _⟩, rfl⟩
    · intro w member joined
      rw [fresh w member] at joined
      cases joined
    · intro w member e failed
      rw [fresh w member] at failed
      cases failed

theorem reached_orderly (going : s₀.Going c d₀) (reached : s₀.Reached c x s) :
    s.Orderly c d₀ := by
  refine reached_invariant (.inl going) ?_ reached
  intro before after running kept moves
  exact orderly_moves (orderly_going kept running) moves

end State

end QueryBench.Run
