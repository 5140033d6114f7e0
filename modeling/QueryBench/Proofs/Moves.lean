import QueryBench.Run.Step

/- Everything that one move of a run can do, and the states that moves lead to. What a run keeps is
   proved once for every move here, without a look at who made it. -/
namespace QueryBench.Run
open Latency

/-- What a worker can do at one move, the runner's joining it included. -/
inductive Worker.Goes (x : Executor) (number : Nat) (w : Worker) : Worker → Prop where
  | starts (state : w.state = .starting) (ready : x.start number = .ok ()) :
      Goes x number w { w with state := .waiting }
  | refuses {cause : String} (state : w.state = .starting) (broken : x.start number = .error cause) :
      Goes x number w { w with state := .failed (.executorStart number cause) }
  | takes (state : w.state = .waiting) (query : Query) (begun : Nat) :
      Goes x number w { w with
        state := .entering ⟨query, false⟩ (x.call number w.calls ⟨query, false⟩) begun []
        calls := w.calls ++ [⟨query, false⟩] }
  | stops (state : w.state = .waiting) : Goes x number w { w with state := .finished }
  | calls {call : Call} {reply : Reply} {begun : Nat} {batch : List Observation}
      (state : w.state = .entering call reply begun batch) (finish : Nat) :
      Goes x number w { w with state := .leaving call reply begun finish batch }
  | breaks {call : Call} {reply : Reply} {begun finish : Nat} {batch : List Observation}
      {cause : String} (state : w.state = .leaving call reply begun finish batch)
      (failed : reply.result = .error cause) :
      Goes x number w { w with state := .failed (.execution number call.query.label cause) }
  | repeats {call : Call} {reply : Reply} {begun finish : Nat} {batch measured : List Observation}
      (state : w.state = .leaving call reply begun finish batch)
      (told : reply.result = .ok measured) (again : Nat) (more : List Observation) :
      Goes x number w { w with
        state := .entering ⟨call.query, true⟩ (x.call number w.calls ⟨call.query, true⟩) again more
        calls := w.calls ++ [⟨call.query, true⟩] }
  | answers {call : Call} {reply : Reply} {begun finish : Nat} {batch measured : List Observation}
      (state : w.state = .leaving call reply begun finish batch)
      (told : reply.result = .ok measured) (more : List Observation) :
      Goes x number w { w with state := .sending more }
  | sends {batch : List Observation} (state : w.state = .sending batch) :
      Goes x number w { w with state := .waiting }
  | joins (state : w.state = .finished) : Goes x number w { w with joined := true }

namespace State

/-- One move. A state that has a result has none. -/
inductive Moves (c : Config) (x : Executor) (s : State) : State → Prop where
  | found {scan after : Scan} {query : Query} {channel : Nat}
      (reading : s.scanner = .reading scan) (next : scan.step = .hand query channel after) :
      Moves c x s { s with scanner := .handing query channel scan after }
  | exhausted {scan : Scan} (reading : s.scanner = .reading scan) (next : scan.step = .finished) :
      Moves c x s { s with scanner := .finished scan.scanned }
  | unreadable {scan : Scan} {e : Stream.Error} (reading : s.scanner = .reading scan)
      (next : scan.step = .failed e) : Moves c x s { s with scanner := .failed e }
  | deserted {query : Query} {channel : Nat} {before after : Scan}
      (handing : s.scanner = .handing query channel before after)
      (nobody : s.abandoned c channel = true) :
      Moves c x s { s with scanner := .finished before.scanned }
  | handed {query : Query} {channel : Nat} {before after : Scan}
      (handing : s.scanner = .handing query channel before after)
      (somebody : s.abandoned c channel = false)
      (room : ((s.channels[channel]?).getD []).length < before.routing.room c.workers) :
      Moves c x s { s.setChannel channel ((s.channels[channel]?).getD [] ++ [query]) with
        scanner := .reading after }
  | started {number : Nat} {w : Worker} (here : s.workers[number]? = some w)
      (state : w.state = .starting) (ready : x.start number = .ok ()) :
      Moves c x s (s.setWorker number { w with state := .waiting })
  | refused {number : Nat} {w : Worker} {cause : String} (here : s.workers[number]? = some w)
      (state : w.state = .starting) (broken : x.start number = .error cause) :
      Moves c x s (s.setWorker number { w with state := .failed (.executorStart number cause) })
  | took {number : Nat} {w : Worker} {query : Query} {rest : List Query}
      (here : s.workers[number]? = some w) (state : w.state = .waiting)
      (queued : (s.channels[c.routing.channelOf number]?).getD [] = query :: rest) :
      Moves c x s ((s.setChannel (c.routing.channelOf number) rest).enter x number w
        ⟨query, false⟩ [])
  | ended {number : Nat} {w : Worker} (here : s.workers[number]? = some w)
      (state : w.state = .waiting)
      (empty : (s.channels[c.routing.channelOf number]?).getD [] = [])
      (closed : s.scanEnded = true) : Moves c x s (s.setWorker number { w with state := .finished })
  | called {number : Nat} {w : Worker} {call : Call} {reply : Reply} {begun : Nat}
      {batch : List Observation} (here : s.workers[number]? = some w)
      (state : w.state = .entering call reply begun batch) (company : reply.alone = false) :
      Moves c x s (s.setWorker number { w with
        state := .leaving call reply begun
          (if reply.takes = 0 then s.clock else Ticker.noticed (s.clock + reply.takes)) batch })
  | calledAlone {number : Nat} {w : Worker} {call : Call} {reply : Reply} {begun : Nat}
      {batch : List Observation} (here : s.workers[number]? = some w)
      (state : w.state = .entering call reply begun batch) (alone : reply.alone = true)
      (quiet : s.pending = []) :
      Moves c x s ({ s with clock := s.clock + reply.takes }.setWorker number
        { w with state := .leaving call reply begun (s.clock + reply.takes) batch })
  | broke {number : Nat} {w : Worker} {call : Call} {reply : Reply} {begun finish : Nat}
      {batch : List Observation} {cause : String} (here : s.workers[number]? = some w)
      (state : w.state = .leaving call reply begun finish batch) (due : finish ≤ s.clock)
      (failed : reply.result = .error cause) :
      Moves c x s (s.setWorker number
        { w with state := .failed (.execution number call.query.label cause) })
  | repeated {number : Nat} {w : Worker} {call : Call} {reply : Reply} {begun finish : Nat}
      {batch measured : List Observation} (here : s.workers[number]? = some w)
      (state : w.state = .leaving call reply begun finish batch) (due : finish ≤ s.clock)
      (told : reply.result = .ok measured) (twice : c.prewarm = true) (cold : call.warm = false) :
      Moves c x s (s.enter x number w ⟨call.query, true⟩
        (batch ++ call.observations measured (s.clock - begun)))
  | answered {number : Nat} {w : Worker} {call : Call} {reply : Reply} {begun finish : Nat}
      {batch measured : List Observation} (here : s.workers[number]? = some w)
      (state : w.state = .leaving call reply begun finish batch) (due : finish ≤ s.clock)
      (told : reply.result = .ok measured) (last : ¬ (c.prewarm = true ∧ ¬ call.warm = true)) :
      Moves c x s (s.setWorker number
        { w with state := .sending (batch ++ call.observations measured (s.clock - begun)) })
  | sent {number : Nat} {w : Worker} {batch : List Observation}
      (here : s.workers[number]? = some w) (state : w.state = .sending batch)
      (room : s.pending.length < maxPending) :
      Moves c x s ({ s with pending := s.pending ++ [batch] }.setWorker number
        { w with state := .waiting })
  | received {batch : List Observation} {rest : List (List Observation)}
      {reported : Collector.Reported} (waiting : s.pending = batch :: rest)
      (result : s.collector.receive s.clock batch s.interim = reported) :
      Moves c x s ({ s with pending := rest }.afterCollecting reported)
  | collected {r : RunSummary} {collector : Collector} {summary : Sink} {directory : Directory}
      (quiet : s.pending = []) (idle : s.workers.all Worker.ended = true)
      (first : s.collected = none)
      (done : s.collector.finish s.clock s.summary s.directory =
        (.ok r, collector, summary, directory)) :
      Moves c x s { s with collector, summary, directory, collected := some r }
  | uncollected {e : Latency.Error} {collector : Collector} {summary : Sink}
      {directory : Directory} (quiet : s.pending = [])
      (idle : s.workers.all Worker.ended = true) (first : s.collected = none)
      (done : s.collector.finish s.clock s.summary s.directory =
        (.error e, collector, summary, directory)) :
      Moves c x s ({ s with collector, summary, directory }.fail (.collection e))
  | ticked {t : Ticker} {reported : Collector.Reported} (ticker : s.ticker = some t)
      (due : t.due s.clock = true) (collecting : s.collected = none)
      (result : s.collector.tick s.clock s.interim = reported) :
      Moves c x s ({ s with ticker := some (t.fire s.clock) }.afterCollecting reported)
  | passed {now : Nat} (later : s.clock < now) :
      Moves c x s { s with
        clock := now
        ticker := if s.collector.hasNews then s.ticker else s.ticker.map (·.pass now) }
  | joinedScan {scanned : Nat} (running : s.scanJoined = false)
      (closed : s.scanner = .finished scanned) :
      Moves c x s { s with scanJoined := true, phase := .draining }
  | lostScan {e : Stream.Error} (running : s.scanJoined = false) (closed : s.scanner = .failed e) :
      Moves c x s (s.fail (.decode e))
  | joinedWorker {number : Nat} {w : Worker} (here : s.workers[number]? = some w)
      (running : w.joined = false) (closed : w.state = .finished) :
      Moves c x s (s.setWorker number { w with joined := true })
  | lostWorker {number : Nat} {w : Worker} {e : Error} (here : s.workers[number]? = some w)
      (running : w.joined = false) (closed : w.state = .failed e) : Moves c x s (s.fail e)
  | completed {r : RunSummary} (collected : s.collected = some r) (scanned : s.scanJoined = true)
      (joined : s.workers.all Worker.joined = true) (silent : c.resultsFile = none) :
      Moves c x s { s with phase := .done, result := some (.ok r) }
  | written {r : RunSummary} {path : String} {directory : Directory}
      (collected : s.collected = some r) (scanned : s.scanJoined = true)
      (joined : s.workers.all Worker.joined = true) (file : c.resultsFile = some path)
      (done : s.directory.write path (Text.bytes (resultsText c r)) = (.ok (), directory)) :
      Moves c x s { s with phase := .done, directory, result := some (.ok r) }
  | unwritten {r : RunSummary} {path : String} {directory : Directory} {fault : Fault}
      (collected : s.collected = some r) (scanned : s.scanJoined = true)
      (joined : s.workers.all Worker.joined = true) (file : c.resultsFile = some path)
      (failed : s.directory.write path (Text.bytes (resultsText c r)) = (.error fault, directory)) :
      Moves c x s ({ s with phase := .done, directory }.fail (.resultsFile path fault))

variable {c : Config} {x : Executor} {s s' : State}

theorem afterCollecting_cases (s : State) (reported : Collector.Reported) :
    (∃ e, (s.afterCollecting reported).result = some (.error e)) ∨
      ∃ collector interim, reported = (.ok (), collector, interim) ∧
        s.afterCollecting reported = { s with collector, interim } := by
  obtain ⟨result, collector, interim⟩ := reported
  cases result with
  | ok u => exact .inr ⟨collector, interim, rfl, rfl⟩
  | error e => exact .inl ⟨.collection e, rfl⟩

@[simp] theorem afterCollecting_workers (s : State) (reported : Collector.Reported) :
    (s.afterCollecting reported).workers = s.workers := by
  obtain ⟨result, collector, interim⟩ := reported
  cases result <;> rfl

@[simp] theorem afterCollecting_phase (s : State) (reported : Collector.Reported) :
    (s.afterCollecting reported).phase = s.phase := by
  obtain ⟨result, collector, interim⟩ := reported
  cases result <;> rfl

@[simp] theorem afterCollecting_channels (s : State) (reported : Collector.Reported) :
    (s.afterCollecting reported).channels = s.channels := by
  obtain ⟨result, collector, interim⟩ := reported
  cases result <;> rfl

@[simp] theorem afterCollecting_scanner (s : State) (reported : Collector.Reported) :
    (s.afterCollecting reported).scanner = s.scanner := by
  obtain ⟨result, collector, interim⟩ := reported
  cases result <;> rfl

@[simp] theorem afterCollecting_collected (s : State) (reported : Collector.Reported) :
    (s.afterCollecting reported).collected = s.collected := by
  obtain ⟨result, collector, interim⟩ := reported
  cases result <;> rfl

@[simp] theorem afterCollecting_summary (s : State) (reported : Collector.Reported) :
    (s.afterCollecting reported).summary = s.summary := by
  obtain ⟨result, collector, interim⟩ := reported
  cases result <;> rfl

@[simp] theorem afterCollecting_directory (s : State) (reported : Collector.Reported) :
    (s.afterCollecting reported).directory = s.directory := by
  obtain ⟨result, collector, interim⟩ := reported
  cases result <;> rfl

theorem goes_not_failed {number : Nat} {w w' : Worker} (goes : w.Goes x number w') (e : Error) :
    w.state ≠ .failed e := by
  cases goes with
  | starts state | refuses state | takes state | stops state | calls state | breaks state
  | repeats state | answers state | sends state | joins state =>
    rw [state]
    nofun

theorem moves_workers (moves : s.Moves c x s') :
    s'.workers = s.workers ∨ ∃ number w w', s.workers[number]? = some w ∧
      s'.workers = s.workers.set number w' ∧ w.Goes x number w' := by
  cases moves with
  | started here state ready => exact .inr ⟨_, _, _, here, rfl, .starts state ready⟩
  | refused here state broken => exact .inr ⟨_, _, _, here, rfl, .refuses state broken⟩
  | took here state queued => exact .inr ⟨_, _, _, here, rfl, .takes state _ _⟩
  | ended here state empty closed => exact .inr ⟨_, _, _, here, rfl, .stops state⟩
  | called here state company => exact .inr ⟨_, _, _, here, rfl, .calls state _⟩
  | calledAlone here state alone quiet => exact .inr ⟨_, _, _, here, rfl, .calls state _⟩
  | broke here state due failed => exact .inr ⟨_, _, _, here, rfl, .breaks state failed⟩
  | repeated here state due told twice cold =>
    exact .inr ⟨_, _, _, here, rfl, .repeats state told _ _⟩
  | answered here state due told last => exact .inr ⟨_, _, _, here, rfl, .answers state told _⟩
  | sent here state room => exact .inr ⟨_, _, _, here, rfl, .sends state⟩
  | joinedWorker here running closed => exact .inr ⟨_, _, _, here, rfl, .joins closed⟩
  | received waiting result => exact .inl (afterCollecting_workers _ _)
  | ticked ticker due collecting result => exact .inl (afterCollecting_workers _ _)
  | found | exhausted | unreadable | deserted | handed | collected | uncollected | passed
  | joinedScan | lostScan | lostWorker | completed | written | unwritten => exact .inl rfl

theorem moves_each_worker {holds : Nat → Worker → Prop}
    (before : ∀ number w, s.workers[number]? = some w → holds number w)
    (kept : ∀ number w w', holds number w → w.Goes x number w' → holds number w')
    (moves : s.Moves c x s') {number : Nat} {w : Worker} (here : s'.workers[number]? = some w) :
    holds number w := by
  rcases moves_workers moves with same | ⟨i, v, v', there, changed, goes⟩
  · exact before number w (same ▸ here)
  · rw [changed] at here
    by_cases same : i = number
    · subst same
      rw [List.getElem?_set_self (List.getElem?_eq_some_iff.mp there).1] at here
      cases here
      exact kept i v _ (before i v there) goes
    · rw [List.getElem?_set_ne same] at here
      exact before number w here

theorem scan?_moves (moved : s.scan? c = some s') : s.Moves c x s' := by
  unfold scan? at moved
  split at moved
  · rename_i scan reading
    cases next : scan.step with
    | hand query channel after =>
      rw [next] at moved
      cases moved
      exact .found reading next
    | finished =>
      rw [next] at moved
      cases moved
      exact .exhausted reading next
    | failed e =>
      rw [next] at moved
      cases moved
      exact .unreadable reading next
  · rename_i query channel before after handing
    split at moved
    · rename_i nobody
      cases moved
      exact .deserted handing nobody
    · rename_i somebody
      simp only at moved
      split at moved
      · rename_i room
        cases moved
        exact .handed handing (by simpa using somebody) room
      · cases moved
  · cases moved

theorem leave_moves {number : Nat} {w : Worker} {call : Call} {reply : Reply} {begun finish : Nat}
    {batch : List Observation} (here : s.workers[number]? = some w)
    (state : w.state = .leaving call reply begun finish batch) (due : finish ≤ s.clock) :
    s.Moves c x (s.leave c x number w call reply begun batch) := by
  unfold leave
  split
  · rename_i cause failed
    exact .broke here state due failed
  · rename_i measured told
    by_cases again : c.prewarm = true ∧ ¬ call.warm = true
    · simp only [if_pos again]
      exact .repeated here state due told again.1 (by simpa using again.2)
    · simp only [if_neg again]
      exact .answered here state due told again

theorem work?_moves {number : Nat} (moved : s.work? c x number = some s') : s.Moves c x s' := by
  unfold work? at moved
  split at moved
  · cases moved
  · rename_i w here
    split at moved
    · rename_i state
      cases ready : x.start number with
      | ok u =>
        rw [ready] at moved
        cases moved
        exact .started here state ready
      | error cause =>
        rw [ready] at moved
        cases moved
        exact .refused here state ready
    · rename_i state
      simp only at moved
      split at moved
      · rename_i query rest queued
        cases moved
        exact .took here state queued
      · rename_i empty
        split at moved
        · rename_i closed
          cases moved
          exact .ended here state empty closed
        · cases moved
    · rename_i call reply begun batch state
      split at moved
      · rename_i alone
        split at moved
        · rename_i quiet
          cases moved
          exact .calledAlone here state alone (by simpa using quiet)
        · cases moved
      · rename_i company
        cases moved
        exact .called here state (by simpa using company)
    · rename_i call reply begun finish batch state
      split at moved
      · rename_i due
        cases moved
        exact leave_moves here state due
      · cases moved
    · rename_i batch state
      split at moved
      · rename_i room
        cases moved
        exact .sent here state room
      · cases moved
    · cases moved

theorem collect?_moves (moved : s.collect? = some s') : s.Moves c x s' := by
  unfold collect? at moved
  split at moved
  · rename_i batch rest waiting
    cases moved
    exact .received waiting rfl
  · rename_i quiet
    split at moved
    · rename_i idle
      obtain ⟨idle, first⟩ := Bool.and_eq_true_iff.mp idle
      have first : s.collected = none := by simpa using first
      split at moved
      · rename_i done
        cases moved
        exact .collected quiet idle first done
      · rename_i done
        cases moved
        exact .uncollected quiet idle first done
    · cases moved

theorem tick?_moves (moved : s.tick? = some s') : s.Moves c x s' := by
  unfold tick? at moved
  split at moved
  · rename_i t ticker
    split at moved
    · rename_i due
      obtain ⟨due, collecting⟩ := Bool.and_eq_true_iff.mp due
      cases moved
      exact .ticked ticker due (by simpa using collecting) rfl
    · cases moved
  · cases moved

theorem pass?_moves {now : Nat} (moved : s.pass? now = some s') : s.Moves c x s' := by
  unfold pass? at moved
  split at moved
  · rename_i later
    cases moved
    exact .passed later
  · cases moved

theorem joinScan?_moves (moved : s.joinScan? = some s') : s.Moves c x s' := by
  unfold joinScan? at moved
  split at moved
  · cases moved
  · rename_i running
    split at moved
    · rename_i closed
      cases moved
      exact .joinedScan (by simpa using running) closed
    · rename_i closed
      cases moved
      exact .lostScan (by simpa using running) closed
    · cases moved

theorem joinWorker?_moves {number : Nat} (moved : s.joinWorker? number = some s') :
    s.Moves c x s' := by
  unfold joinWorker? at moved
  split at moved
  · cases moved
  · rename_i w here
    split at moved
    · cases moved
    · rename_i running
      split at moved
      · rename_i closed
        cases moved
        exact .joinedWorker here (by simpa using running) closed
      · rename_i closed
        cases moved
        exact .lostWorker here (by simpa using running) closed
      · cases moved

theorem complete?_moves (moved : s.complete? c = some s') : s.Moves c x s' := by
  unfold complete? at moved
  split at moved
  · rename_i r collected
    split at moved
    · rename_i joined
      obtain ⟨scanned, joined⟩ := Bool.and_eq_true_iff.mp joined
      simp only at moved
      split at moved
      · rename_i silent
        cases moved
        exact .completed collected scanned joined silent
      · rename_i path file
        split at moved
        · rename_i done
          cases moved
          exact .written collected scanned joined file done
        · rename_i failed
          cases moved
          exact .unwritten collected scanned joined file failed
    · cases moved
  · cases moved

/-- Whoever moves, the run makes one of the moves above. -/
theorem step?_moves {a : Actor} (moved : s.step? c x a = some s') :
    s.result = none ∧ s.Moves c x s' := by
  unfold step? at moved
  split at moved
  · cases moved
  · rename_i open_
    refine ⟨by simpa using open_, ?_⟩
    cases a with
    | scanner => exact scan?_moves moved
    | worker number => exact work?_moves moved
    | collector => exact collect?_moves moved
    | ticker => exact tick?_moves moved
    | clock now => exact pass?_moves moved
    | joinScan => exact joinScan?_moves moved
    | joinWorker number => exact joinWorker?_moves moved
    | complete => exact complete?_moves moved

/-- The states that a run gets to, in any order of moves. -/
inductive Reached (c : Config) (x : Executor) (s₀ : State) : State → Prop where
  | start : Reached c x s₀ s₀
  | step {s s' : State} {a : Actor} (before : Reached c x s₀ s)
      (moved : s.step? c x a = some s') : Reached c x s₀ s'

/-- What holds at the start and is kept by every move holds wherever a run gets to. -/
theorem reached_invariant {holds : State → Prop} {s₀ : State} (start : holds s₀)
    (kept : ∀ s s', s.result = none → holds s → s.Moves c x s' → holds s')
    (reached : Reached c x s₀ s) : holds s := by
  induction reached with
  | start => exact start
  | step before moved ih =>
    obtain ⟨running, moves⟩ := step?_moves moved
    exact kept _ _ running ih moves

theorem reached_trans {s₀ : State} (first : s₀.Reached c x s) (then_ : s.Reached c x s') :
    s₀.Reached c x s' := by
  induction then_ with
  | start => exact first
  | step before moved ih => exact .step ih moved

end State

end QueryBench.Run
