import QueryBench.Proofs.Failure

/- What a run has told when it is over. The collector reports as soon as all workers have come to
   their ends, and a worker that fails has come to its end as well: a run that breaks off may have
   reported before its runner learns of the failure. -/
namespace QueryBench

theorem Sink.put_ok {s after : Sink} {text : String} (put_ : s.put text = (.ok (), after)) :
    after.accepted.toList = s.accepted.toList ++ Text.bytes text := by
  unfold put at put_
  split at put_
  · rename_i written wrote
    have same : written = after := congrArg Prod.snd put_
    subst same
    exact write_ok wrote
  · rename_i failed
    exact absurd put_ (failed after)

namespace Latency

theorem Report.final_opening (s : Settings) (queries nanos : Nat) (gs : Groups) :
    "Run complete after ".toList <+: (final s queries nanos gs).toList := by
  unfold final
  simp only [String.toList_append, List.append_assoc]
  exact List.prefix_append _ _

namespace Collector

theorem writeLatencies_ok {c : Collector} {d d' : Directory}
    (wrote : c.writeLatencies d = (.ok (), d')) {path : String}
    (file : c.settings.latenciesFile = some path) :
    d'.file? path = some (Text.bytes c.ladderText) := by
  rw [writeLatencies, file] at wrote
  cases result : d.write path (Text.bytes c.ladderText) with
  | mk outcome after =>
    cases outcome with
    | error fault =>
      simp only [result] at wrote
      cases wrote
    | ok u =>
      simp only [result] at wrote
      cases wrote
      exact Directory.write_ok_file? result

theorem finish_ok {c after : Collector} {now : Nat} {sink sink' : Sink} {d d' : Directory}
    {r : RunSummary} (done : c.finish now sink d = (.ok r, after, sink', d')) :
    sink'.accepted.toList = sink.accepted.toList ++ Text.bytes (c.finalText now) ∧
      ∀ path, c.settings.latenciesFile = some path →
        d'.file? path = some (Text.bytes c.ladderText) := by
  simp only [finish] at done
  split at done
  · cases done
  · rename_i told put_
    split at done
    · cases done
    · rename_i files wrote
      cases done
      exact ⟨Sink.put_ok put_, fun path file => writeLatencies_ok wrote file⟩

end Collector

end Latency

namespace Run
open Latency

/-- The input cannot be read on, an executor does not start, or it does not answer a call. -/
def Error.breaksOff : Error → Bool
  | .decode _ | .executorStart _ _ | .execution _ _ _ => true
  | .config _ | .collection _ | .resultsFile _ _ => false

/-- The results of a run are put into the file for them, if there is one. -/
def Saved (c : Config) (r : RunSummary) (before after : Directory) : Prop :=
  match c.resultsFile with
  | none => after = before
  | some path => before.write path (Text.bytes (State.resultsText c r)) = (.ok (), after)

namespace State

/-- All workers have ended, and what they sent is collected. -/
structure Quiet (s : State) : Prop where
  pending : s.pending = []
  ended : ∀ w ∈ s.workers, w.ended = true

/-- The final report went out whole, to outputs that nothing had been written to before, and left
the files `d`. -/
structure Told (c : Config) (summary : Sink) (d₀ : Directory) (r : RunSummary) (d : Directory)
    (s : State) : Prop where
  quiet : s.Quiet
  collected : s.collected = some r
  finished : ∃ (collector : Collector) (now : Nat), collector.settings = c.toSettings ∧
    collector.finish now summary d₀ = (.ok r, s.collector, s.summary, d)

/-- How far a run has got with its final report. Behind it the results are saved, and nothing else
is written. -/
inductive Telling (c : Config) (summary : Sink) (d₀ : Directory) (s : State) : Prop
  | nothing (collected : s.collected = none) (sink : s.summary = summary)
      (files : s.directory = d₀)
  | told {r : RunSummary} (told : s.Told c summary d₀ r s.directory)
  | past (quiet : s.Quiet) {outcome : Except Error RunSummary} (result : s.result = some outcome)
      (unbroken : ∀ e, outcome = .error e → e.breaksOff = false)

variable {c : Config} {x : Executor} {summary : Sink} {d₀ : Directory} {s₀ s s' : State}

theorem telling_nothing (settings : s.collector.settings = c.toSettings)
    (collected : s.collected = none) (sink : s.summary = summary) (files : s.directory = d₀)
    (moves : s.Moves c x s') : s'.Telling c summary d₀ := by
  cases moves with
  | received waiting result =>
    exact .nothing (by simpa using collected) (by simpa using sink) (by simpa using files)
  | ticked ticker due collecting result =>
    exact .nothing (by simpa using collected) (by simpa using sink) (by simpa using files)
  | @collected r collector _ _ nothing idle first done =>
    have quiet : s.Quiet := ⟨nothing, List.all_eq_true.mp idle⟩
    rw [sink, files] at done
    exact .told ⟨{ quiet with }, rfl, s.collector, s.clock, settings, done⟩
  | @uncollected e collector _ _ nothing idle first done =>
    refine .past ⟨nothing, List.all_eq_true.mp idle⟩ rfl ?_
    intro e unwritten
    cases unwritten
    rfl
  | completed some_ | written some_ | unwritten some_ =>
    rw [collected] at some_
    cases some_
  | found | exhausted | unreadable | deserted | handed | started | refused | took | ended | called
  | calledAlone | broke | repeated | answered | sent | passed | joinedScan | lostScan
  | joinedWorker | lostWorker => exact .nothing collected sink files

theorem telling_told {r : RunSummary} (told : s.Told c summary d₀ r s.directory)
    (moves : s.Moves c x s') : s'.Telling c summary d₀ := by
  have ended : ∀ {number : Nat} {w : Worker}, s.workers[number]? = some w → w.ended = true := by
    intro number w here
    exact told.quiet.ended w (List.mem_of_getElem? here)
  cases moves with
  | started here state | refused here state | took here state | ended here state
  | called here state | calledAlone here state | broke here state | repeated here state
  | answered here state | sent here state =>
    have gone := ended here
    rw [Worker.ended, state] at gone
    cases gone
  | received waiting result =>
    rw [told.quiet.pending] at waiting
    cases waiting
  | ticked _ _ first | collected _ _ first | uncollected _ _ first =>
    rw [told.collected] at first
    cases first
  | @joinedWorker number w here running closed =>
    refine .told ⟨⟨told.quiet.pending, ?_⟩, told.collected, told.finished⟩
    intro v member
    rcases List.mem_or_eq_of_mem_set member with before | rfl
    · exact told.quiet.ended v before
    · exact told.quiet.ended w (List.mem_of_getElem? here)
  | completed collected scanned joined silent | written collected scanned joined file done =>
    refine .past { told.quiet with } rfl ?_
    intro e failed
    cases failed
  | unwritten collected scanned joined file failed =>
    refine .past { told.quiet with } rfl ?_
    intro e late
    cases late
    rfl
  | found | exhausted | unreadable | deserted | handed | passed | joinedScan | lostScan
  | lostWorker => exact .told ⟨{ told.quiet with }, told.collected, told.finished⟩

theorem telling_moves (settings : s.collector.settings = c.toSettings) (running : s.result = none)
    (telling : s.Telling c summary d₀) (moves : s.Moves c x s') : s'.Telling c summary d₀ := by
  cases telling with
  | nothing collected sink files => exact telling_nothing settings collected sink files moves
  | told told => exact telling_told told moves
  | past quiet result unbroken =>
    rw [running] at result
    cases result

theorem afterCollecting_ok {reported : Collector.Reported} {r : RunSummary}
    (done : (s.afterCollecting reported).result = some (.ok r)) : s.result = some (.ok r) := by
  obtain ⟨result, collector, interim⟩ := reported
  cases result with
  | ok u => exact done
  | error e => cases done

/-- The move that a run ends well with comes behind the report, and saves what was told. -/
theorem telling_complete (running : s.result = none) (telling : s.Telling c summary d₀)
    (moves : s.Moves c x s') {r : RunSummary} (done : s'.result = some (.ok r)) :
    ∃ d, s'.Told c summary d₀ r d ∧ Saved c r d s'.directory := by
  have told : s.collected = some r → s.Told c summary d₀ r s.directory := by
    intro collected
    cases telling with
    | nothing none_ =>
      rw [none_] at collected
      cases collected
    | told told =>
      obtain rfl := Option.some.inj (told.collected.symm.trans collected)
      exact told
    | past quiet result =>
      rw [running] at result
      cases result
  cases moves with
  | completed collected scanned joined silent =>
    cases done
    have same := told collected
    refine ⟨s.directory, ⟨{ same.quiet with }, same.collected, same.finished⟩, ?_⟩
    rw [Saved, silent]
  | written collected scanned joined file wrote =>
    cases done
    have same := told collected
    refine ⟨s.directory, ⟨{ same.quiet with }, same.collected, same.finished⟩, ?_⟩
    rw [Saved, file]
    exact wrote
  | received | ticked =>
    have before := afterCollecting_ok done
    cases running.symm.trans before
  | uncollected | lostScan | lostWorker | unwritten => cases done
  | found | exhausted | unreadable | deserted | handed | started | refused | took | ended | called
  | calledAlone | broke | repeated | answered | sent | collected | passed | joinedScan
  | joinedWorker => cases running.symm.trans done

theorem start_untold {input : Source} {interim : Sink}
    (started : start c input interim summary d₀ = .ok s₀) : s₀.Telling c summary d₀ := by
  unfold start at started
  split at started
  · cases started
  · cases started
    exact .nothing rfl rfl rfl

theorem reached_telling {input : Source} {interim : Sink}
    (started : start c input interim summary d₀ = .ok s₀) (reached : s₀.Reached c x s) :
    s.Telling c summary d₀ := by
  have going : s₀.Going c d₀ := (start_eq started).2.1
  induction reached with
  | start => exact start_untold started
  | step before moved kept =>
    obtain ⟨running, moves⟩ := step?_moves moved
    have settings := (orderly_going (reached_orderly going before) running).settings
    exact telling_moves settings running kept moves

end State

/-- In whatever order the parts of a run move, nothing is written to its outputs for the end before
all workers have ended and all that they sent is collected. A run that breaks off leaves these
outputs alone, or its workers had all ended and the whole final report was there already. One that
ends well has told what it returns, and saved it. -/
theorem final_report_waits_for_the_workers (c : Config) (x : Executor) (input : Source)
    (interim summary : Sink) (directory : Directory) (s₀ s : State)
    (started : State.start c input interim summary directory = .ok s₀)
    (reached : s₀.Reached c x s) :
    (¬ s.Quiet → s.summary = summary ∧ s.directory = directory) ∧
      (∀ e, s.result = some (.error e) → e.breaksOff = true →
        (s.summary = summary ∧ s.directory = directory) ∨
          ∃ r, s.Told c summary directory r s.directory) ∧
      ∀ r, s.result = some (.ok r) →
        ∃ d, s.Told c summary directory r d ∧ Saved c r d s.directory := by
  have telling := State.reached_telling started reached
  refine ⟨?_, ?_, ?_⟩
  · intro busy
    cases telling with
    | nothing collected sink files => exact ⟨sink, files⟩
    | told told => exact absurd told.quiet busy
    | past quiet result unbroken => exact absurd quiet busy
  · intro e failed breaks
    cases telling with
    | nothing collected sink files => exact .inl ⟨sink, files⟩
    | told told => exact .inr ⟨_, told⟩
    | past quiet result unbroken =>
      rw [failed, Option.some.injEq] at result
      rw [unbroken e result.symm] at breaks
      cases breaks
  · intro r done
    cases reached with
    | start =>
      rw [(State.start_eq started).2.1.open_] at done
      cases done
    | step before moved =>
      obtain ⟨running, moves⟩ := State.step?_moves moved
      exact State.telling_complete running (State.reached_telling started before) moves done

def lonely : Config := { workers := 1, percentiles := [], latenciesFile := some "ladder.txt" }

theorem lonely_breaks_off_late :
    ∃ s₀ s, State.start lonely (.ofBytes (Stream.encoded rehearsed)) {} {} {} = .ok s₀ ∧
      s₀.Reached lonely fickle s ∧ s.collected.isSome = true ∧
      ∃ number cause, s.result = some (.error (.execution number "b" cause)) := by
  have saw : (State.start lonely (.ofBytes (Stream.encoded rehearsed)) {} {} {}).toOption.map
      (fun s => ((s.go lonely fickle 80).collected.isSome, (s.go lonely fickle 80).brokenAt)) =
        some (true, some "b") := by decide +kernel
  obtain ⟨s₀, s, started, reached, seen⟩ :=
    State.go_seen (fun s => (s.collected.isSome, s.brokenAt)) saw
  obtain ⟨collected, broken⟩ := Prod.mk.inj seen
  exact ⟨s₀, s, started, reached, collected, State.brokenAt_result broken⟩

theorem lonely_ends_well :
    ∃ s₀ s r, State.start lonely (.ofBytes (Stream.encoded rehearsed)) {} {} {} = .ok s₀ ∧
      s₀.Reached lonely (.noop none 0 false) s ∧ s.result = some (.ok r) := by
  have saw : (State.start lonely (.ofBytes (Stream.encoded rehearsed)) {} {} {}).toOption.map
      (fun s => (s.go lonely (.noop none 0 false) 80).ended) = some true := by decide +kernel
  obtain ⟨s₀, s, started, reached, ended⟩ := State.go_seen State.ended saw
  obtain ⟨r, done⟩ := State.ended_result ended
  exact ⟨s₀, s, r, started, reached, done⟩

theorem lonely_report_waits :
    (∃ s₀ s, State.start lonely (.ofBytes (Stream.encoded rehearsed)) {} {} {} = .ok s₀ ∧
      s₀.Reached lonely fickle s ∧ (¬ s₀.Quiet ∧ s₀.summary = {} ∧ s₀.directory = {}) ∧
      (∃ number cause, s.result = some (.error (.execution number "b" cause))) ∧
      ((s.summary = {} ∧ s.directory = {}) ∨ ∃ r, s.Told lonely {} {} r s.directory)) ∧
    ∃ s₀ s r, State.start lonely (.ofBytes (Stream.encoded rehearsed)) {} {} {} = .ok s₀ ∧
      s₀.Reached lonely (.noop none 0 false) s ∧ s.result = some (.ok r) ∧
      ∃ d, s.Told lonely {} {} r d ∧ Saved lonely r d s.directory := by
  refine ⟨?_, ?_⟩
  · obtain ⟨s₀, s, started, reached, -, number, cause, broken⟩ := lonely_breaks_off_late
    have first := final_report_waits_for_the_workers lonely fickle _ {} {} {} s₀ s₀ started .start
    have last := final_report_waits_for_the_workers lonely fickle _ {} {} {} s₀ s started reached
    have busy : ¬ s₀.Quiet := by
      intro quiet
      have fresh : s₀.workers = List.replicate 1 {} := (State.start_eq started).2.2
      have ended := quiet.ended {} (by rw [fresh]; exact List.mem_singleton_self _)
      cases ended
    exact ⟨s₀, s, started, reached, ⟨busy, first.1 busy⟩, ⟨number, cause, broken⟩,
      last.2.1 _ broken rfl⟩
  · obtain ⟨s₀, s, r, started, reached, done⟩ := lonely_ends_well
    have last := final_report_waits_for_the_workers lonely _ _ {} {} {} s₀ s started reached
    exact ⟨s₀, s, r, started, reached, done, last.2.2 r done⟩

/-- The failure of the last worker can come to the runner behind the report: this run breaks off at
a query, and tells that it is complete. -/
theorem lonely_tells_of_completion :
    lonely.check = .ok () ∧ ∃ s₀ s text,
      State.start lonely (.ofBytes (Stream.encoded rehearsed)) {} {} {} = .ok s₀ ∧
      s₀.Reached lonely fickle s ∧
      (∃ number cause, s.result = some (.error (.execution number "b" cause))) ∧
      "Run complete after ".toList <+: text.toList ∧
      s.summary.accepted.toList = Text.bytes text ∧
      (s.directory.file? "ladder.txt").isSome = true := by
  obtain ⟨s₀, s, started, reached, collected, number, cause, broken⟩ := lonely_breaks_off_late
  refine ⟨rfl, s₀, s, ?_⟩
  cases State.reached_telling started reached with
  | nothing none_ sink files =>
    rw [none_] at collected
    cases collected
  | past quiet result unbroken =>
    rw [broken, Option.some.injEq] at result
    cases unbroken _ result.symm
  | told told =>
    obtain ⟨collector, now, settings, done⟩ := told.finished
    obtain ⟨report, ladder⟩ := Collector.finish_ok done
    refine ⟨collector.finalText now, started, reached, ⟨number, cause, broken⟩,
      Report.final_opening _ _ _ _, report, ?_⟩
    rw [ladder "ladder.txt" (by rw [settings]; rfl)]
    rfl

end Run

end QueryBench
