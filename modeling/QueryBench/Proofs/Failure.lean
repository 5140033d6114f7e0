import QueryBench.Proofs.Conservation
import QueryBench.Proofs.Grammar
import QueryBench.Proofs.Lifecycle

/- What fails in a run is never lost. Its runner learns of it or does not get to the end, so a run that
   ends well had nothing fail in it. The results are written by the runner alone and at the very end;
   but the collector may have written its latencies before, to whatever file they are to go to. -/
namespace QueryBench.Run
open Latency

namespace State
variable {c : Config} {x : Executor} {d₀ : Directory} {s₀ s s' : State}

/-- Something fails when an actor moves. -/
inductive Fails (c : Config) (x : Executor) (s : State) : Actor → Prop where
  | decode {scan : Scan} {e : Stream.Error} (reading : s.scanner = .reading scan)
      (damaged : scan.reader.next.1 = .error e)
      (wanted : ¬ (0 < scan.limit ∧ scan.limit ≤ scan.scanned)) : Fails c x s .scanner
  | start {number : Nat} {w : Worker} {cause : String} (here : s.workers[number]? = some w)
      (state : w.state = .starting) (broken : x.start number = .error cause) :
      Fails c x s (.worker number)
  | call {number : Nat} {w : Worker} {call : Call} {reply : Reply} {begun finish : Nat}
      {batch : List Observation} {cause : String} (here : s.workers[number]? = some w)
      (state : w.state = .leaving call reply begun finish batch)
      (broken : reply.result = .error cause) : Fails c x s (.worker number)
  | report {batch : List Observation} {rest : List (List Observation)} {e : Latency.Error}
      (waiting : s.pending = batch :: rest)
      (unwritten : (s.collector.receive s.clock batch s.interim).1 = .error e) :
      Fails c x s .collector
  | tick {e : Latency.Error} (unwritten : (s.collector.tick s.clock s.interim).1 = .error e) :
      Fails c x s .ticker
  | finish {e : Latency.Error} (quiet : s.pending = [])
      (unwritten : (s.collector.finish s.clock s.summary s.directory).1 = .error e) :
      Fails c x s .collector
  | results {r : RunSummary} {path : String} {fault : Fault} (collected : s.collected = some r)
      (file : c.resultsFile = some path)
      (unwritten : (s.directory.write path (Text.bytes (resultsText c r))).1 = .error fault) :
      Fails c x s .complete

/-- A failure that the runner has learned of or will learn of. -/
inductive Doomed (s : State) : Prop where
  | scan {e : Stream.Error} (failed : s.scanner = .failed e)
  | worker {number : Nat} {w : Worker} {e : Error} (here : s.workers[number]? = some w)
      (failed : w.state = .failed e)
  | told {e : Error} (failed : s.result = some (.error e))

theorem afterCollecting_doomed {reported : Collector.Reported} {e : Latency.Error}
    (failed : reported.1 = .error e) : (s.afterCollecting reported).Doomed := by
  obtain ⟨result, collector, interim⟩ := reported
  cases failed
  exact .told rfl

theorem getElem?_setWorker {number : Nat} {w w' : Worker} (here : s.workers[number]? = some w) :
    (s.setWorker number w').workers[number]? = some w' :=
  List.getElem?_set_self (List.getElem?_eq_some_iff.mp here).1

/-- Nothing that fails is lost. -/
theorem fails_doomed {a : Actor} (fails : s.Fails c x a) (moved : s.step? c x a = some s') :
    s'.Doomed := by
  have running := (step?_moves moved).1
  unfold step? at moved
  rw [if_neg (by rw [running]; decide)] at moved
  cases fails with
  | @decode scan e reading damaged wanted =>
    have step : scan.step = .failed e := by
      rw [Scan.step, if_neg wanted]
      cases next : scan.reader.next with
      | mk outcome reader =>
        rw [next] at damaged
        cases damaged
        rfl
    simp only [scan?, reading, step] at moved
    cases moved
    exact .scan rfl
  | @start number w cause here state broken =>
    simp only [work?, here, state, broken] at moved
    cases moved
    exact .worker (getElem?_setWorker here) rfl
  | @call number w call reply begun finish batch cause here state broken =>
    simp only [work?, here, state] at moved
    split at moved
    · simp only [leave, broken] at moved
      cases moved
      exact .worker (getElem?_setWorker here) rfl
    · cases moved
  | report waiting unwritten =>
    simp only [collect?, waiting] at moved
    cases moved
    exact afterCollecting_doomed unwritten
  | tick unwritten =>
    simp only [tick?] at moved
    split at moved
    · split at moved
      · cases moved
        exact afterCollecting_doomed unwritten
      · cases moved
    · cases moved
  | finish quiet unwritten =>
    simp only [collect?, quiet] at moved
    split at moved
    · split at moved
      · rename_i done
        rw [done] at unwritten
        cases unwritten
      · cases moved
        exact .told rfl
    · cases moved
  | results collected file unwritten =>
    simp only [complete?, collected, file] at moved
    split at moved
    · split at moved
      · rename_i done
        rw [done] at unwritten
        cases unwritten
      · cases moved
        exact .told rfl
    · cases moved

theorem moves_doomed (running : s.result = none) (moves : s.Moves c x s') (doomed : s.Doomed) :
    s'.Doomed := by
  cases doomed with
  | told failed =>
    rw [running] at failed
    cases failed
  | @worker number w e here failed =>
    rcases moves_workers moves with same | ⟨i, v, v', there, changed, goes⟩
    · exact .worker (same ▸ here) failed
    · by_cases same : i = number
      · subst same
        rw [here] at there
        cases there
        exact absurd failed (goes_not_failed goes e)
      · rw [← List.getElem?_set_ne same, ← changed] at here
        exact .worker here failed
  | @scan e failed =>
    -- only the scanner itself would move on, and it has nothing to read or to hand over
    cases moves with
    | found reading next =>
      rw [failed] at reading
      cases reading
    | exhausted reading next =>
      rw [failed] at reading
      cases reading
    | unreadable reading next => exact .scan rfl
    | deserted handing nobody =>
      rw [failed] at handing
      cases handing
    | handed handing somebody room =>
      rw [failed] at handing
      cases handing
    | received waiting result => exact .scan ((afterCollecting_scanner _ _).trans failed)
    | ticked ticker due collecting result =>
      exact .scan ((afterCollecting_scanner _ _).trans failed)
    | started | refused | took | ended | called | calledAlone | broke | repeated | answered | sent
    | collected | uncollected | passed | joinedScan | lostScan | joinedWorker | lostWorker
    | completed | written | unwritten => exact .scan failed

theorem doomed_not_ok (orderly : s.Orderly c d₀) (doomed : s.Doomed) (r : RunSummary) :
    s.result ≠ some (.ok r) := by
  intro done
  have succeeded := (over_well (orderly_over orderly done) done).2
  cases doomed with
  | scan failed =>
    obtain ⟨n, finished⟩ := succeeded.scan
    rw [failed] at finished
    cases finished
  | worker here failed =>
    have finished := succeeded.workers _ (List.mem_of_getElem? here)
    rw [failed] at finished
    cases finished
  | told failed =>
    rw [done] at failed
    cases failed

theorem reached_doomed (doomed : s₀.Doomed) (reached : s₀.Reached c x s) : s.Doomed :=
  reached_invariant doomed (fun _ _ running kept moves => moves_doomed running moves kept) reached

end State

/-- Each of the calls that a worker made went well. -/
def Answered (x : Executor) (number : Nat) (calls : List Call) : Prop :=
  ∀ earlier call later, calls = earlier ++ call :: later →
    ∃ measured, (x.call number earlier call).result = .ok measured

theorem answered_nil (x : Executor) (number : Nat) : Answered x number [] := by
  intro earlier call later split
  cases earlier <;> cases split

theorem answered_append {x : Executor} {number : Nat} {calls : List Call} {call : Call}
    (answered : Answered x number calls) {measured : List Observation}
    (told : (x.call number calls call).result = .ok measured) :
    Answered x number (calls ++ [call]) := by
  intro earlier other later split
  rcases List.eq_nil_or_concat later with rfl | ⟨front, last, rfl⟩
  · obtain ⟨rfl, same⟩ := List.append_inj' split rfl
    cases same
    exact ⟨measured, told⟩
  · have same : calls ++ [call] = (earlier ++ other :: front) ++ [last] := by
      rw [split, List.concat_eq_append, List.append_assoc, List.cons_append]
    exact answered earlier other front (List.append_inj' same rfl).1

/-- What a worker that has not failed has behind it: its executor has started, and every call but
the one at hand went well. -/
def Worker.Serving (x : Executor) (number : Nat) (w : Worker) : Prop :=
  match w.state with
  | .starting => w.calls = []
  | .waiting | .sending _ | .finished => x.start number = .ok () ∧ Answered x number w.calls
  | .entering call reply _ _ | .leaving call reply _ _ _ =>
      x.start number = .ok () ∧ ∃ earlier, w.calls = earlier ++ [call] ∧
        reply = x.call number earlier call ∧ Answered x number earlier
  | .failed _ => True

theorem serving_goes {x : Executor} {number : Nat} {w w' : Worker} (serving : w.Serving x number)
    (goes : w.Goes x number w') : w'.Serving x number := by
  cases goes with
  | starts state ready =>
    rw [Worker.Serving, state] at serving
    exact ⟨ready, serving ▸ answered_nil x number⟩
  | refuses state broken => exact trivial
  | takes state query begun =>
    rw [Worker.Serving, state] at serving
    exact ⟨serving.1, w.calls, rfl, rfl, serving.2⟩
  | stops state =>
    rw [Worker.Serving, state] at serving
    exact serving
  | calls state finish =>
    rw [Worker.Serving, state] at serving
    exact serving
  | breaks state failed => exact trivial
  | repeats state told again more =>
    rw [Worker.Serving, state] at serving
    obtain ⟨ready, earlier, made, rfl, answered⟩ := serving
    exact ⟨ready, w.calls, rfl, rfl, made ▸ answered_append answered told⟩
  | answers state told more =>
    rw [Worker.Serving, state] at serving
    obtain ⟨ready, earlier, made, rfl, answered⟩ := serving
    exact ⟨ready, made ▸ answered_append answered told⟩
  | sends state =>
    rw [Worker.Serving, state] at serving
    exact serving
  | joins state =>
    rw [Worker.Serving, state] at serving
    rw [Worker.Serving]
    simp only [state]
    exact serving

namespace State
variable {c : Config} {x : Executor} {s₀ s : State}

def Serving (x : Executor) (s : State) : Prop :=
  ∀ number (w : Worker), s.workers[number]? = some w → w.Serving x number

theorem reached_serving (fresh : s₀.workers = List.replicate c.workers {})
    (reached : s₀.Reached c x s) : s.Serving x := by
  have start : s₀.Serving x := by
    intro number w here
    have member := List.mem_of_getElem? here
    rw [fresh] at member
    rw [List.eq_of_mem_replicate member]
    exact rfl
  refine reached_invariant start ?_ reached
  intro before after running kept moves number w here
  exact moves_each_worker kept (fun _ _ _ => serving_goes) moves here

end State

/-- The results do not go to the file that the latencies go to. -/
def Config.Apart (c : Config) (d : Directory) : Prop :=
  ∀ latencies results, c.latenciesFile = some latencies → c.resultsFile = some results →
    ¬ d.SameFile latencies results

theorem leftAlone_results {c : Config} {d₀ d : Directory} (alone : LeftAlone c d₀ d)
    (apart : c.Apart d₀) {results : String} (file : c.resultsFile = some results) :
    d.file? results = d₀.file? results := by
  rcases alone results with same | ⟨latencies, other, shared, -⟩
  · exact same
  · exact absurd shared (apart latencies results other file)

/-- A run that cannot be started leaves everything as it is. Of one that was started, in whatever
order its parts move: the phases follow one another; once something has failed, the run cannot end
well; if it ends well, all executors have started and have answered all calls; it is done exactly if
everything succeeded, be it that the results could not be written; and until then it has touched
no file but the one for the latencies, so not the one for the results if these are two. -/
theorem failures_end_the_run (c : Config) (x : Executor) (input : Source) (interim summary : Sink)
    (directory : Directory) :
    (∀ e, State.start c input interim summary directory = .error e →
      (∃ cause, Stream.Reader.start input = .error cause ∧ e = .decode cause) ∧
        (run c x input interim summary directory).phase = .created ∧
        (run c x input interim summary directory).result = some (.error e) ∧
        (run c x input interim summary directory).directory = directory) ∧
    (∀ bs, input.Holds bs → ¬ Stream.identifier <+: bs →
      State.start c input interim summary directory = .error (.decode .invalidIdentifier)) ∧
    ∀ s₀, State.start c input interim summary directory = .ok s₀ →
      Phase.Next .created s₀.phase ∧ ∀ s, s₀.Reached c x s →
        (∀ a s', s.step? c x a = some s' → (s'.phase = s.phase ∨ s.phase.Next s'.phase) ∧
          (s.Fails c x a → ∀ t r, s'.Reached c x t → t.result ≠ some (.ok r))) ∧
        (∀ r, s.result = some (.ok r) → ∀ number w, s.workers[number]? = some w →
          x.start number = .ok () ∧ Answered x number w.calls) ∧
        (s.result.isSome = true → (s.phase = .done ↔ s.Succeeded)) ∧
        (∀ r, s.result = some (.ok r) → s.phase = .done) ∧
        (∀ e, s.result = some (.error e) → (s.phase = .done ↔ e.late = true)) ∧
        (s.phase ≠ .done → LeftAlone c directory s.directory ∧
          (c.Apart directory → ∀ results, c.resultsFile = some results →
            s.directory.file? results = directory.file? results)) := by
  refine ⟨?_, ?_, ?_⟩
  · intro e failed
    refine ⟨?_, by rw [run, failed], by rw [run, failed], by rw [run, failed]⟩
    unfold State.start at failed
    split at failed
    · rename_i cause refused
      cases failed
      exact ⟨cause, refused, rfl⟩
    · cases failed
  · intro bs holds foreign
    rw [State.start, Stream.Reader.start_foreign holds foreign]
  · intro s₀ started
    obtain ⟨phase, going, fresh⟩ := State.start_eq started
    refine ⟨phase ▸ .run, ?_⟩
    intro s reached
    have orderly := State.reached_orderly going reached
    refine ⟨?_, ?_, ?_, ?_, ?_, ?_⟩
    · intro a s' moved
      obtain ⟨running, moves⟩ := State.step?_moves moved
      refine ⟨?_, ?_⟩
      · exact State.moves_phase (State.orderly_going orderly running) moves
      · intro fails t r behind
        have doomed := State.reached_doomed (State.fails_doomed fails moved) behind
        exact State.doomed_not_ok
          (State.reached_orderly going (State.reached_trans (.step reached moved) behind)) doomed r
    · intro r done number w here
      have succeeded := (State.over_well (State.orderly_over orderly done) done).2
      have finished := succeeded.workers w (List.mem_of_getElem? here)
      have serving := State.reached_serving fresh reached number w here
      rwa [Worker.Serving, finished] at serving
    · intro ended
      obtain ⟨outcome, ended⟩ := Option.isSome_iff_exists.mp ended
      exact State.over_done_iff (State.orderly_over orderly ended)
    · exact fun r done => (State.over_well (State.orderly_over orderly done) done).1
    · exact fun e failed => State.over_late_iff (State.orderly_over orderly failed) failed
    · intro undone
      have alone := State.orderly_files orderly undone
      exact ⟨alone, fun apart _ file => leftAlone_results alone apart file⟩

def fickle : Executor where
  start _ := .ok ()
  call _ _ call := { result := if call.query.label = "b" then .error "timed out" else .ok [] }

def saved : Config :=
  { rehearsal with resultsFile := some "results.json", latenciesFile := some "ladder.txt" }

def State.brokenAt (s : State) : Option String :=
  match s.result with
  | some (.error (.execution _ label _)) => some label
  | _ => none

theorem State.brokenAt_result {s : State} {label : String} (broken : s.brokenAt = some label) :
    ∃ number cause, s.result = some (.error (.execution number label cause)) := by
  unfold State.brokenAt at broken
  split at broken
  · rename_i number label cause result
    cases broken
    exact ⟨number, cause, result⟩
  · cases broken

theorem fickle_ends_the_run :
    (¬ Stream.identifier <+: [116, 115, 98] ∧
      (run saved fickle (.ofBytes [116, 115, 98]) {} {} {}).phase = .created) ∧
    ∃ s₀ s, State.start saved (.ofBytes (Stream.encoded rehearsed)) {} {} {} = .ok s₀ ∧
      s₀.Reached saved fickle s ∧
      (∃ number cause, s.result = some (.error (.execution number "b" cause))) ∧
      s.phase ≠ .done ∧ ¬ s.Succeeded ∧ saved.Apart {} ∧
      s.directory.file? "results.json" = none := by
  have foreign : ¬ Stream.identifier <+: [116, 115, 98] := by decide
  refine ⟨⟨foreign, ?_⟩, ?_⟩
  · obtain ⟨unstarted, refused, -⟩ :=
      failures_end_the_run saved fickle (.ofBytes [116, 115, 98]) {} {} {}
    exact (unstarted _ (refused _ (Source.ofBytes_holds _) foreign)).2.1
  · have saw : (State.start saved (.ofBytes (Stream.encoded rehearsed)) {} {} {}).toOption.map
        (fun s => (s.go saved fickle 80).brokenAt) = some (some "b") := by decide +kernel
    obtain ⟨s₀, s, started, reached, seen⟩ := State.go_seen State.brokenAt saw
    obtain ⟨number, cause, broken⟩ := State.brokenAt_result seen
    obtain ⟨-, -, going⟩ :=
      failures_end_the_run saved fickle (.ofBytes (Stream.encoded rehearsed)) {} {} {}
    obtain ⟨-, -, succeeded, -, late, files⟩ := (going s₀ started).2 _ reached
    have undone : s.phase ≠ .done := by
      rw [Ne, late _ broken]
      exact Bool.false_ne_true
    have apart : saved.Apart {} := by
      rintro latencies results ⟨⟩ ⟨⟩ ⟨place, ladder, json⟩
      have first : (({} : Directory).resolve "ladder.txt").toOption = some (some "ladder.txt") := by
        decide +kernel
      have second : (({} : Directory).resolve "results.json").toOption =
          some (some "results.json") := by decide +kernel
      rw [ladder] at first
      rw [json] at second
      cases first
      exact absurd second (by decide)
    refine ⟨s₀, s, started, reached, ⟨number, cause, broken⟩, undone, ?_, apart, ?_⟩
    · rw [← succeeded (by rw [broken]; rfl)]
      exact undone
    · exact ((files undone).2 apart _ rfl).trans (by decide +kernel)

def shared : Config :=
  { workers := 1, percentiles := [], latenciesFile := some "results.json",
    resultsFile := some "results.json" }

/-- The collector finishes as the worker fails, and what it writes stands where the results of a run
would stand that is done. -/
theorem ladder_in_place_of_results :
    shared.check = .ok () ∧ ∃ s₀ s,
      State.start shared (.ofBytes (Stream.encoded rehearsed)) {} {} {} = .ok s₀ ∧
      s₀.Reached shared fickle s ∧
      (∃ number cause, s.result = some (.error (.execution number "b" cause))) ∧
      s.phase ≠ .done ∧ ({} : Directory).file? "results.json" = none ∧
      (s.directory.file? "results.json").isSome = true := by
  have saw : (State.start shared (.ofBytes (Stream.encoded rehearsed)) {} {} {}).toOption.map
      (fun s => ((s.go shared fickle 80).brokenAt, (s.go shared fickle 80).phase,
        ((s.go shared fickle 80).directory.file? "results.json").isSome)) =
      some (some "b", .running, true) := by decide +kernel
  obtain ⟨s₀, s, started, reached, seen⟩ := State.go_seen
    (fun s => (s.brokenAt, s.phase, (s.directory.file? "results.json").isSome)) saw
  obtain ⟨broken, seen⟩ := Prod.mk.inj seen
  obtain ⟨phase, written⟩ := Prod.mk.inj seen
  refine ⟨rfl, s₀, s, started, reached, State.brokenAt_result broken, ?_, by decide +kernel, written⟩
  rw [phase]
  decide

end QueryBench.Run
