import QueryBench.Proofs.Conservation
import QueryBench.Proofs.FinalReport
import QueryBench.Proofs.Grouping

/- Under which labels the values of a run are. A call that was made is under way, or its value is in
   the batch of its worker, in one that was sent, or in the groups. No move loses a value or puts it
   under another label, so in the end the group of a label has one for every call under it. -/
namespace QueryBench

namespace Latency

/-- The groups of a summary are those of some queries: each label has its calls, and besides the
groups of labels there are only those of the collector itself. -/
structure RunSummary.Covers (s : Settings) (qs : List Query) (r : RunSummary) : Prop where
  sorted : Table.Sorted r.groups
  labels : ∀ label, Plain label → r.held label = qs.countP (·.label = label) * s.perQuery
  named : ∀ label g, (label, g) ∈ r.groups → (∃ q ∈ qs, q.label = label) ∨ label = allQueries ∨
    s.prewarm = true ∧ (label = coldQueries ∨ label = warmQueries)

theorem Collector.summary_covers {s : Settings} {qs : List Query} {os : List Observation}
    {c : Collector} (groups : c.groups = observeAll s.prewarm os [])
    (plain : ∀ o ∈ os, Plain o.label)
    (values : ∀ label, os.countP (·.label = label) = qs.countP (·.label = label) * s.perQuery)
    (now : Nat) : (c.summary now).Covers s qs := by
  have gathered := observeAll_gathered s.prewarm plain
  have sorted := observeAll_sorted Table.sorted_nil s.prewarm os
  rw [← groups] at gathered sorted
  refine ⟨Table.sorted_map sorted (·.summary c.settings.percentiles), ?_, ?_⟩
  · intro label free
    rw [summary_held, Groups.held, gathered.own label free, Group.count_ofValues?, List.length_map,
      ← List.countP_eq_length_filter]
    exact values label
  · intro label g member
    obtain ⟨⟨_, h⟩, inside, same⟩ := List.mem_map.mp member
    cases same
    have found := (Table.mem_iff_find? sorted label h).mp inside
    rw [groups] at found
    -- the group is there because of an observation, which says whose group it is
    obtain ⟨o, known, own | all | ⟨twice, call⟩⟩ := observeAll_joined s.prewarm plain found
    · have some_ : 0 < os.countP (·.label = label) :=
        List.countP_pos_iff.mpr ⟨o, known, decide_eq_true own.symm⟩
      rw [values label] at some_
      obtain ⟨q, member, labelled⟩ := List.countP_pos_iff.mp (Nat.pos_of_mul_pos_right some_)
      exact .inl ⟨q, member, of_decide_eq_true labelled⟩
    · exact .inr (.inl all)
    · refine .inr (.inr ⟨twice, ?_⟩)
      unfold callLabel at call
      split at call
      · exact .inr call
      · exact .inl call

end Latency

namespace Run
open Latency

namespace Worker

def called (w : Worker) : List String := w.calls.map (·.query.label)

/-- The labels of the values that a worker has not sent yet, that of the call under way included. -/
def State.owing : State → List String
  | .entering call _ _ batch | .leaving call _ _ _ batch =>
      batch.map (·.label) ++ [call.query.label]
  | .sending batch => batch.map (·.label)
  | .starting | .waiting | .finished | .failed _ => []

theorem owing_ended {w : Worker} (ended : w.ended = true) : w.state.owing = [] := by
  cases state : w.state with
  | finished | failed e => rfl
  | starting | waiting | entering call reply begun batch | leaving call reply begun finish batch
  | sending batch =>
    rw [Worker.ended, state] at ended
    cases ended

/-- A worker goes on and sends some batches: what it owes and what it has called still agree. -/
def Pays (paid : List (List Observation)) (w w' : Worker) : Prop :=
  (paid.flatten.map (·.label) ++ w'.state.owing ++ w.called).Perm (w.state.owing ++ w'.called)

theorem pays_nothing {w w' : Worker} (owing : w'.state.owing = w.state.owing)
    (calls : w'.calls = w.calls) : w.Pays [] w' := by
  rw [Pays, called, called, owing, calls]
  exact .refl _

theorem pays_took {w : Worker} (state : w.state = .waiting) {q : Query} {reply : Reply}
    {begun : Nat} :
    w.Pays [] { w with
      state := .entering ⟨q, false⟩ reply begun []
      calls := w.calls ++ [⟨q, false⟩] } := by
  rw [Pays, state, called, called, List.map_append]
  exact List.perm_append_comm

section Leaving
variable {w : Worker} {call : Call} {reply : Reply} {begun finish : Nat}
  {batch : List Observation} (state : w.state = .leaving call reply begun finish batch)
  {o : Observation} (label : o.label = call.query.label)
include state label

theorem pays_answered : w.Pays [] { w with state := .sending (batch ++ [o]) } := by
  apply pays_nothing
  · rw [state, State.owing, State.owing, List.map_append, ← label]
    rfl
  · rfl

theorem pays_repeated {reply' : Reply} {again : Nat} :
    w.Pays [] { w with
      state := .entering ⟨call.query, true⟩ reply' again (batch ++ [o])
      calls := w.calls ++ [⟨call.query, true⟩] } := by
  have more : (batch ++ [o]).map (·.label) = batch.map (·.label) ++ [call.query.label] := by
    rw [← label, List.map_append]
    rfl
  rw [Pays, state, called, called, State.owing, State.owing, more, List.map_append]
  show (batch.map (·.label) ++ [call.query.label] ++ [call.query.label] ++ _).Perm _
  rw [List.append_assoc]
  exact List.perm_append_comm.append_left _

end Leaving

theorem pays_sent {w : Worker} {batch : List Observation} (state : w.state = .sending batch) :
    w.Pays [batch] { w with state := .waiting } := by
  rw [Pays, state, State.owing, State.owing, List.flatten_singleton, List.append_nil]
  exact .refl _

end Worker

theorem answer_plain {prewarm : Bool} {batch : List Observation} (answer : Answer prewarm batch) :
    ∀ o ∈ batch, Plain o.label := by
  cases answer with
  | once single plain => simpa using plain
  | twice double plain full cold plain' => simpa using ⟨plain, plain'⟩

namespace State

def underway (s : State) : List String :=
  s.pending.flatten.map (·.label) ++ s.workers.flatMap (·.state.owing)

def called (s : State) : List String := s.workers.flatMap Worker.called

/-- The groups are made of the observations `os`, and every call is under way or among them. -/
structure Traced (prewarm : Bool) (os : List Observation) (s : State) : Prop where
  groups : s.collector.groups = observeAll prewarm os []
  plain : ∀ o ∈ os, Plain o.label
  labels : (os.map (·.label) ++ s.underway).Perm s.called

/-- Every call can be traced, unless the run is over with an error. -/
def Traceable (c : Config) (s : State) : Prop :=
  (∃ e, s.result = some (.error e)) ∨ ∃ os, s.Traced c.prewarm os

variable {c : Config} {x : Executor} {qs : List Query} {k : Nat} {prewarm : Bool}
  {os : List Observation} {s s' : State}

theorem traced_paid (traced : s.Traced prewarm os) {paid : List (List Observation)} {number : Nat}
    {w w' : Worker} (here : s.workers[number]? = some w) (pays : w.Pays paid w')
    (groups : s'.collector.groups = s.collector.groups) (pending : s'.pending = s.pending ++ paid)
    (workers : s'.workers = s.workers.set number w') : s'.Traced prewarm os := by
  obtain ⟨front, back, split, replaced⟩ := exists_split here
  -- the other workers stay as they are, so only this one's labels have to be counted
  refine ⟨groups.trans traced.groups, traced.plain, List.perm_iff_count.mpr ?_⟩
  intro label
  have before := List.perm_iff_count.mp traced.labels label
  have paid := List.perm_iff_count.mp pays label
  simp only [underway, called, split, List.flatMap_append, List.flatMap_cons, List.count_append]
    at before paid
  simp only [underway, called, pending, workers, replaced, List.flatten_append, List.map_append,
    List.flatMap_append, List.flatMap_cons, List.count_append]
  omega

theorem traced_worker (traced : s.Traced prewarm os) {number : Nat} {w w' : Worker}
    (here : s.workers[number]? = some w) (pays : w.Pays [] w')
    (groups : s'.collector.groups = s.collector.groups) (pending : s'.pending = s.pending)
    (workers : s'.workers = s.workers.set number w') : s'.Traced prewarm os :=
  traced_paid traced here pays groups (pending.trans (List.append_nil _).symm) workers

theorem traced_same (traced : s.Traced prewarm os) {number : Nat} {w w' : Worker}
    (here : s.workers[number]? = some w) (groups : s'.collector.groups = s.collector.groups)
    (pending : s'.pending = s.pending) (workers : s'.workers = s.workers.set number w')
    (owing : w'.state.owing = w.state.owing) (calls : w'.calls = w.calls) : s'.Traced prewarm os :=
  traced_worker traced here (Worker.pays_nothing owing calls) groups pending workers

theorem traced_alike (traced : s.Traced prewarm os)
    (groups : s'.collector.groups = s.collector.groups) (pending : s'.pending = s.pending)
    (workers : s'.workers = s.workers) : s'.Traced prewarm os := by
  refine ⟨groups.trans traced.groups, traced.plain, ?_⟩
  rw [underway, called, pending, workers]
  exact traced.labels

theorem traced_received (unburned : c.burnIn = 0) (books : s.Accounted c qs k)
    (traced : s.Traced c.prewarm os) {batch : List Observation} {rest : List (List Observation)}
    (waiting : s.pending = batch :: rest) {collector : Collector} {interim : Sink}
    (done : s.collector.receive s.clock batch s.interim = (.ok (), collector, interim)) :
    { s with pending := rest, collector, interim }.Traced c.prewarm (os ++ batch) := by
  have answer := books.answers batch (waiting ▸ List.mem_cons_self)
  have measuring : ¬ s.collector.burningIn = true := by
    rw [Collector.burningIn_iff, books.counts.settings, unburned]
    exact Nat.not_lt_zero _
  rw [Collector.receive, if_neg measuring] at done
  have kept := Collector.takeAll_kept done
  refine ⟨?_, List.forall_mem_append.mpr ⟨traced.plain, answer_plain answer⟩, ?_⟩
  · rw [kept.groups, traced.groups, books.counts.settings, observeAll_append]
    rfl
  · have labels := traced.labels
    rw [underway, waiting, List.flatten_cons, List.map_append, List.append_assoc] at labels
    rw [underway, List.map_append, List.append_assoc]
    exact labels

theorem reached_straight (positive : 0 < c.workers) (dutiful : x.Dutiful)
    (plain : ∀ q ∈ qs, Plain q.label) {s₀ : State} (books : s₀.Accounted c qs 0)
    (reached : s₀.Reached c x s) : s.Straight c qs := by
  refine reached_invariant (.inr ⟨0, books⟩) ?_ reached
  intro before after running kept moves
  exact straight_moves positive dutiful plain running kept moves

section Kept
variable (unburned : c.burnIn = 0) (dutiful : x.Dutiful)
include unburned dutiful

/-- No move loses the trace of a call. -/
theorem traceable_moves (books : s.Accounted c qs k) (traced : s.Traced c.prewarm os)
    (moves : s.Moves c x s') : s'.Traceable c := by
  have sound : ∀ {number : Nat} {w : Worker}, s.workers[number]? = some w → w.Sound c.prewarm :=
    fun here => books.sound _ (List.mem_of_getElem? here)
  -- an executor that starts and answers leaves no move that would lose the call under way
  cases moves with
  | found | exhausted | unreadable | deserted | handed | passed | joinedScan | completed
  | written => exact .inr ⟨os, traced_alike traced rfl rfl rfl⟩
  | uncollected | lostScan | lostWorker | unwritten => exact .inl ⟨_, rfl⟩
  | @refused number w cause here state broken =>
    rw [dutiful.starts number] at broken
    cases broken
  | started here state | ended here state | called here state | calledAlone here state =>
    refine .inr ⟨os, traced_same traced here rfl rfl rfl ?_ rfl⟩
    rw [state]
    rfl
  | took here state queued =>
    exact .inr ⟨os, traced_worker traced here (Worker.pays_took state) rfl rfl rfl⟩
  | @broke number w call reply begun finish batch cause here state due failed =>
    rcases (Worker.sound_calling (sound here) state).1 with nothing | ⟨o, one, -⟩
    · rw [failed] at nothing
      cases nothing
    · rw [failed] at one
      cases one
  | repeated here state due told twice cold =>
    obtain ⟨answers, -⟩ := Worker.sound_calling (sound here) state
    obtain ⟨o, single, measures⟩ := observations_measure answers told _
    rw [single]
    refine .inr ⟨os, traced_worker traced here ?_ rfl rfl rfl⟩
    exact Worker.pays_repeated state measures.label
  | answered here state due told last =>
    obtain ⟨answers, -⟩ := Worker.sound_calling (sound here) state
    obtain ⟨o, single, measures⟩ := observations_measure answers told _
    rw [single]
    refine .inr ⟨os, traced_worker traced here ?_ rfl rfl rfl⟩
    exact Worker.pays_answered state measures.label
  | sent here state room =>
    exact .inr ⟨os, traced_paid traced here (Worker.pays_sent state) rfl rfl rfl⟩
  | @received batch rest reported waiting result =>
    rcases afterCollecting_cases { s with pending := rest } reported with
      failed | ⟨collector, interim, done, same⟩
    · exact .inl failed
    · rw [same]
      exact .inr ⟨_, traced_received unburned books traced waiting (result.trans done)⟩
  | collected quiet idle first done =>
    have kept := Collector.finish_kept s.collector s.clock s.summary s.directory
    rw [done] at kept
    exact .inr ⟨os, traced_alike traced kept.groups rfl rfl⟩
  | @ticked t reported ticker due collecting result =>
    rcases afterCollecting_cases { s with ticker := some (t.fire s.clock) } reported with
      failed | ⟨collector, interim, done, same⟩
    · exact .inl failed
    · have kept := Collector.tick_kept s.collector s.clock s.interim
      rw [result, done] at kept
      rw [same]
      exact .inr ⟨os, traced_alike traced kept.groups rfl rfl⟩
  | joinedWorker here joining closed =>
    exact .inr ⟨os, traced_same traced here rfl rfl rfl rfl rfl⟩

theorem reached_traceable (positive : 0 < c.workers) (plain : ∀ q ∈ qs, Plain q.label)
    {s₀ : State} (books : s₀.Accounted c qs 0) (traced : s₀.Traced c.prewarm [])
    (reached : s₀.Reached c x s) : s.Traceable c := by
  induction reached with
  | start => exact .inr ⟨[], traced⟩
  | step before moved ih =>
    obtain ⟨running, moves⟩ := step?_moves moved
    rcases reached_straight positive dutiful plain books before with ⟨e, failed⟩ | ⟨k, books⟩
    · rw [running] at failed
      cases failed
    rcases ih with ⟨e, failed⟩ | ⟨os, traced⟩
    · rw [running] at failed
      cases failed
    exact traceable_moves unburned dutiful books traced moves

end Kept

theorem start_traced {input : Source} {interim summary : Sink} {d₀ : Directory} {s₀ : State}
    (started : start c input interim summary d₀ = .ok s₀) : s₀.Traced c.prewarm [] := by
  unfold start at started
  split at started
  · cases started
  · cases started
    have idle : ∀ f : Worker → List String, f {} = [] →
        (List.replicate c.workers ({} : Worker)).flatMap f = [] := by
      intro f nothing
      rw [List.flatMap_eq_nil_iff]
      intro w member
      rw [List.eq_of_mem_replicate member, nothing]
    refine ⟨rfl, by simp, ?_⟩
    rw [underway, called, idle (·.state.owing) rfl, idle Worker.called rfl]
    exact .refl _

theorem traced_ended (traced : s.Traced prewarm os) (quiet : s.Quiet) :
    (os.map (·.label)).Perm s.called := by
  have nothing : s.workers.flatMap (·.state.owing) = [] :=
    List.flatMap_eq_nil_iff.mpr fun w member => Worker.owing_ended (quiet.ended w member)
  have labels := traced.labels
  rwa [underway, quiet.pending, nothing, List.flatten_nil, List.map_nil, List.append_nil,
    List.append_nil] at labels

theorem called_ended (books : s.Accounted c qs k) (idle : ∀ w ∈ s.workers, w.ended = true) :
    s.called = (callsFor c.prewarm s.taken).map (·.query.label) := by
  have each : s.called = s.workers.flatMap fun w =>
      (callsFor c.prewarm w.taken).map (·.query.label) := by
    apply List.flatMap_congr
    intro w member
    rw [Worker.called, (Worker.sound_ended (books.sound w member) (idle w member)).2]
  rw [each, ← List.map_flatMap, taken, callsFor, List.flatMap_assoc]
  rfl

end State

theorem count_callsFor (s : Settings) (qs : List Query) (label : String) :
    ((callsFor s.prewarm qs).map (·.query.label)).count label =
      qs.countP (·.label = label) * s.perQuery := by
  induction qs with
  | nil => simp [callsFor]
  | cons q qs ih =>
    have one : ((callsFor s.prewarm [q]).map (·.query.label)).count label =
        (if q.label = label then 1 else 0) * s.perQuery := by
      by_cases same : q.label = label
      · cases twice : s.prewarm <;> simp [callsFor, Settings.perQuery, twice, same]
      · cases twice : s.prewarm <;> simp [callsFor, same]
    have first : callsFor s.prewarm (q :: qs) = callsFor s.prewarm [q] ++ callsFor s.prewarm qs :=
      callsFor_append s.prewarm [q] qs
    rw [first, List.map_append, List.count_append, one, ih, List.countP_cons, Nat.add_mul,
      Nat.add_comm]
    simp only [decide_eq_true_eq]

theorem countP_numbered (k : Nat) (qs : List Query) (label : String) :
    (numbered k qs).countP (·.label = label) = (qs.take k).countP (·.label = label) := by
  calc (numbered k qs).countP (·.label = label)
      = ((qs.take k).zipIdx.map Prod.fst).countP (·.label = label) := by
        rw [numbered, List.countP_map, List.countP_map]
        rfl
    _ = (qs.take k).countP (·.label = label) := by rw [List.zipIdx_map_fst]

namespace State
variable {c : Config} {x : Executor} {qs : List Query} {k : Nat} {os : List Observation}
  {summary : Sink} {d₀ d : Directory} {s₀ s : State} {r : RunSummary}

theorem reached_told {input : Source} {interim : Sink}
    (started : start c input interim summary d₀ = .ok s₀) (reached : s₀.Reached c x s)
    (done : s.result = some (.ok r)) : ∃ d, s.Told c summary d₀ r d := by
  cases reached with
  | start =>
    rw [(start_eq started).2.1.open_] at done
    cases done
  | step before moved =>
    obtain ⟨running, moves⟩ := step?_moves moved
    obtain ⟨d, told, -⟩ := telling_complete running (reached_telling started before) moves done
    exact ⟨d, told⟩

theorem traced_countP (books : s.Accounted c qs k) (positive : 0 < c.workers)
    (traced : s.Traced c.prewarm os) (quiet : s.Quiet) (label : String) :
    os.countP (·.label = label) =
      (qs.take (quota c.limit qs.length)).countP (·.label = label) * c.perQuery := by
  have dealt := (accounted_ended books positive quiet.ended).1
  calc os.countP (·.label = label) = (os.map (·.label)).count label := by
        rw [List.count, List.countP_map]
        rfl
    _ = s.called.count label := (traced_ended traced quiet).count_eq label
    _ = s.taken.countP (·.label = label) * c.perQuery := by
        rw [called_ended books quiet.ended, count_callsFor]
    _ = _ := by rw [dealt.countP_eq, countP_numbered]

theorem told_covers (books : s.Accounted c qs k) (positive : 0 < c.workers)
    (traced : s.Traced c.prewarm os) (told : s.Told c summary d₀ r d) :
    r.Covers c.toSettings (qs.take (quota c.limit qs.length)) := by
  obtain ⟨collector, now, settings, done⟩ := told.finished
  have kept := Collector.finish_kept collector now summary d₀
  rw [done] at kept
  obtain rfl := Collector.finish_summary done
  exact Collector.summary_covers (kept.groups.symm.trans traced.groups) traced.plain
    (traced_countP books positive traced told.quiet) now

theorem completed_covers (unburned : c.burnIn = 0) (positive : 0 < c.workers) (dutiful : x.Dutiful)
    (plain : ∀ q ∈ qs, Plain q.label) {input : Source} {interim : Sink}
    (started : start c input interim summary d₀ = .ok s₀) (books : s₀.Accounted c qs 0)
    (reached : s₀.Reached c x s) (done : s.result = some (.ok r)) :
    r.Tallies c.toSettings (quota c.limit qs.length) ∧
      r.Covers c.toSettings (qs.take (quota c.limit qs.length)) := by
  obtain ⟨d, told⟩ := reached_told started reached done
  have traced := start_traced started
  rcases reached_straight positive dutiful plain books reached with ⟨e, failed⟩ | ⟨k, straight⟩
  · rw [done] at failed
    cases failed
  rcases reached_traceable unburned dutiful positive plain books traced reached with
    ⟨e, failed⟩ | ⟨os, traced⟩
  · rw [done] at failed
    cases failed
  exact ⟨(straight.told r told.collected).2, told_covers straight positive traced told⟩

end State

end Run

end QueryBench
