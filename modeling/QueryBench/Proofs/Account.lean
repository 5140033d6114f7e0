import QueryBench.Proofs.Moves
import QueryBench.Proofs.Scan
import QueryBench.Proofs.Worker

/- The books of a run. A query that has been handed out waits in a channel or was taken by a worker;
   a query that was taken is owed by its worker, waits as a batch, or was counted by the collector.
   Every move keeps the books straight, in whatever order the moves come. -/
namespace QueryBench.Run
open Latency

theorem exists_split {α : Type} {l : List α} {i : Nat} {a : α} (here : l[i]? = some a) :
    ∃ front back, l = front ++ a :: back ∧ ∀ b, l.set i b = front ++ b :: back := by
  obtain ⟨inside, rfl⟩ := List.getElem?_eq_some_iff.mp here
  refine ⟨l.take i, l.drop (i + 1), ?_, ?_⟩
  · rw [List.getElem_cons_drop, List.take_append_drop]
  · intro b
    rw [List.set_eq_take_append_cons_drop, if_pos inside]

theorem queue_found {queues : List (List Query)} {channel : Nat} {q : Query} {rest : List Query}
    (queued : (queues[channel]?).getD [] = q :: rest) : queues[channel]? = some (q :: rest) := by
  cases found : queues[channel]? with
  | none =>
    rw [found] at queued
    cases queued
  | some queue =>
    rw [found, Option.getD_some] at queued
    rw [queued]

/-- The scan between two moves, `k` queries having been handed to the workers. -/
inductive Scanner.At (c : Config) (qs : List Query) : Nat → Scanner → Prop where
  | reading {k : Nat} {scan : Scan} (here : scan.At c qs k) : At c qs k (.reading scan)
  | handing {k channel : Nat} {q : Query} {before after : Scan} (next : qs[k]? = some q)
      (inside : channel < c.routing.channels c.workers) (there : after.At c qs (k + 1)) :
      At c qs k (.handing (numberedAs k q) channel before after)
  | finished : At c qs (quota c.limit qs.length) (.finished (quota c.limit qs.length))

namespace State

def taken (s : State) : List Query := s.workers.flatMap Worker.taken

/-- The books of a run of the queries `qs`, of which `k` have been handed to the workers. -/
structure Accounted (c : Config) (qs : List Query) (k : Nat) (s : State) : Prop where
  scanner : s.scanner.At c qs k
  crew : s.workers.length = c.workers
  lanes : s.channels.length = c.routing.channels c.workers
  sound : ∀ w ∈ s.workers, w.Sound c.prewarm
  dealt : (s.channels.flatten ++ s.taken).Perm (numbered k qs)
  owed : s.taken.length =
    s.collector.queries + s.pending.length + s.workers.countP Worker.busy
  answers : ∀ batch ∈ s.pending, Answer c.prewarm batch
  counts : s.collector.Counts c.toSettings s.collector.queries
  closed : ∀ number w, s.workers[number]? = some w → w.ended = true →
    s.scanEnded = true ∧ (s.channels[c.routing.channelOf number]?).getD [] = []
  told : ∀ r, s.collected = some r →
    (∀ w ∈ s.workers, w.ended = true) ∧ r.Tallies c.toSettings (quota c.limit qs.length)
  result : ∀ r, s.result = some (.ok r) → s.collected = some r

variable {c : Config} {x : Executor} {qs : List Query} {k : Nat} {s s' : State}

/-- States that differ in nothing that the books are about. -/
structure Alike (s s' : State) : Prop where
  scanner : s'.scanner = s.scanner
  workers : s'.workers = s.workers
  channels : s'.channels = s.channels
  pending : s'.pending = s.pending
  collector : s.collector.Kept s'.collector
  collected : s'.collected = s.collected

theorem accounted_alike (books : s.Accounted c qs k) (alike : Alike s s')
    (result : ∀ r, s'.result = some (.ok r) → s.collected = some r) : s'.Accounted c qs k := by
  obtain ⟨scanner, workers, channels, pending, kept, collected⟩ := alike
  have taken : s'.taken = s.taken := by rw [State.taken, workers, State.taken]
  have ended : s'.scanEnded = s.scanEnded := by rw [scanEnded, scanner, scanEnded]
  refine ⟨scanner ▸ books.scanner, workers ▸ books.crew, channels ▸ books.lanes,
    workers ▸ books.sound, ?_, ?_, pending ▸ books.answers, ?_, ?_, ?_, ?_⟩
  · rw [channels, taken]
    exact books.dealt
  · rw [taken, kept.queries, pending, workers]
    exact books.owed
  · rw [kept.queries]
    exact Collector.counts_kept books.counts kept
  · rw [workers, channels, ended]
    exact books.closed
  · rw [workers, collected]
    exact books.told
  · rw [collected]
    exact result

theorem accounted_going (books : s.Accounted c qs k) (going : s.scanEnded = false) :
    ∀ w ∈ s.workers, w.ended = false := by
  intro w member
  obtain ⟨number, here⟩ := List.mem_iff_getElem?.mp member
  cases ended : w.ended with
  | false => rfl
  | true =>
    have done := (books.closed number w here ended).1
    rw [going] at done
    cases done

theorem accounted_somebody (books : s.Accounted c qs k) (positive : 0 < c.workers)
    (going : s.scanEnded = false) {channel : Nat}
    (inside : channel < c.routing.channels c.workers) : s.abandoned c channel = false := by
  obtain ⟨number, present, same⟩ := Routing.channelOf_covers positive inside
  have here : number < s.workers.length := books.crew ▸ present
  have working := accounted_going books going _ (List.getElem_mem here)
  rw [abandoned, List.all_eq_false]
  refine ⟨(s.workers[number], number), ?_, ?_⟩
  · exact List.mk_mem_zipIdx_iff_getElem?.mpr (List.getElem?_eq_getElem here)
  · simp [same, working]

theorem accounted_scanner (books : s.Accounted c qs k) {scanner : Scanner}
    (here : scanner.At c qs k) (going : s.scanEnded = false) :
    { s with scanner }.Accounted c qs k := by
  have working := accounted_going books going
  refine ⟨here, books.crew, books.lanes, books.sound, books.dealt, books.owed, books.answers,
    books.counts, ?_, books.told, books.result⟩
  intro number w found ended
  rw [working w (List.mem_of_getElem? found)] at ended
  cases ended

theorem accounted_handed (books : s.Accounted c qs k) {q : Query} {channel : Nat} {after : Scan}
    (going : s.scanEnded = false) (next : qs[k]? = some q)
    (inside : channel < c.routing.channels c.workers) (there : after.At c qs (k + 1)) :
    { s.setChannel channel ((s.channels[channel]?).getD [] ++ [numberedAs k q]) with
      scanner := .reading after }.Accounted c qs (k + 1) := by
  have working := accounted_going books going
  obtain ⟨queue, here⟩ : ∃ queue, s.channels[channel]? = some queue :=
    ⟨_, List.getElem?_eq_getElem (books.lanes ▸ inside)⟩
  obtain ⟨front, back, split, replaced⟩ := exists_split here
  refine ⟨.reading there, books.crew, ?_, books.sound, ?_, books.owed, books.answers,
    books.counts, ?_, books.told, books.result⟩
  · rw [setChannel, List.length_set]
    exact books.lanes
  · rw [numbered_succ next, List.perm_iff_count]
    intro p
    have before := List.perm_iff_count.mp books.dealt p
    rw [split] at before
    simp only [setChannel, replaced, here, Option.getD_some, List.flatten_append,
      List.flatten_cons, List.count_append, taken] at before ⊢
    omega
  · intro number w found ended
    rw [working w (List.mem_of_getElem? found)] at ended
    cases ended

theorem mem_setWorker {number : Nat} {w v : Worker} (member : v ∈ (s.setWorker number w).workers) :
    v ∈ s.workers ∨ v = w := List.mem_or_eq_of_mem_set member

theorem closed_setWorker {number : Nat} {w w' : Worker} (books : s.Accounted c qs k)
    (here : s.workers[number]? = some w)
    (ended : w'.ended = true → w.ended = true ∨
      s.scanEnded = true ∧ (s.channels[c.routing.channelOf number]?).getD [] = []) :
    ∀ i v, (s.setWorker number w').workers[i]? = some v → v.ended = true →
      s.scanEnded = true ∧ (s.channels[c.routing.channelOf i]?).getD [] = [] := by
  intro i v found done
  by_cases same : number = i
  · subst same
    have inside : number < s.workers.length := (List.getElem?_eq_some_iff.mp here).1
    rw [setWorker, List.getElem?_set_self inside] at found
    cases found
    rcases ended done with before | now
    · exact books.closed number w here before
    · exact now
  · rw [setWorker, List.getElem?_set_ne same] at found
    exact books.closed i v found done

theorem accounted_paid (books : s.Accounted c qs k) (paid : List (List Observation))
    {number : Nat} {w w' : Worker} (here : s.workers[number]? = some w)
    (sound : w'.Sound c.prewarm) (answers : ∀ batch ∈ paid, Answer c.prewarm batch)
    (same : w'.taken = w.taken)
    (owing : (if w.busy then 1 else 0) = paid.length + if w'.busy then 1 else 0)
    (running : w.ended = true → w'.ended = true)
    (ended : w'.ended = true → w.ended = true ∨
      s.scanEnded = true ∧ (s.channels[c.routing.channelOf number]?).getD [] = []) :
    ({ s with pending := s.pending ++ paid }.setWorker number w').Accounted c qs k := by
  obtain ⟨front, back, split, replaced⟩ := exists_split here
  have taken : ({ s with pending := s.pending ++ paid }.setWorker number w').taken = s.taken := by
    simp only [State.taken, setWorker, replaced]
    simp only [split, List.flatMap_append, List.flatMap_cons, same]
  refine ⟨books.scanner, ?_, books.lanes, ?_, ?_, ?_, ?_, books.counts, ?_, ?_, books.result⟩
  · rw [setWorker, List.length_set]
    exact books.crew
  · intro v member
    rcases mem_setWorker member with before | rfl
    · exact books.sound v before
    · exact sound
  · rw [taken]
    exact books.dealt
  · have owed := books.owed
    rw [taken, owed]
    simp only [setWorker, replaced, List.length_append]
    simp only [split, List.countP_append, List.countP_cons]
    omega
  · intro batch member
    rcases List.mem_append.mp member with before | last
    · exact books.answers batch before
    · exact answers batch last
  · intro i v found done
    exact closed_setWorker books here ended i v found done
  · intro r collected
    obtain ⟨all, tallies⟩ := books.told r collected
    constructor
    · intro v member
      rcases mem_setWorker member with before | rfl
      · exact all v before
      · exact running (all w (List.mem_of_getElem? here))
    · exact tallies

theorem accounted_worker (books : s.Accounted c qs k) {number : Nat} {w w' : Worker}
    (here : s.workers[number]? = some w) (sound : w'.Sound c.prewarm) (same : w'.taken = w.taken)
    (busy : w'.busy = w.busy) (running : w.ended = true → w'.ended = true)
    (ended : w'.ended = true → w.ended = true ∨
      s.scanEnded = true ∧ (s.channels[c.routing.channelOf number]?).getD [] = []) :
    (s.setWorker number w').Accounted c qs k := by
  have paid := accounted_paid books [] here sound (by simp) same
    (by rw [busy, List.length_nil, Nat.zero_add]) running ended
  rwa [List.append_nil] at paid

theorem accounted_working (books : s.Accounted c qs k) {number : Nat} {w w' : Worker}
    (here : s.workers[number]? = some w) (sound : w'.Sound c.prewarm) (same : w'.taken = w.taken)
    (busy : w'.busy = w.busy) (working : w.ended = false) (working' : w'.ended = false) :
    (s.setWorker number w').Accounted c qs k := by
  apply accounted_worker books here sound same busy
  · intro ended
    rw [working] at ended
    cases ended
  · intro ended
    rw [working'] at ended
    cases ended

theorem accounted_taken (books : s.Accounted c qs k) {number : Nat} {w w' : Worker} {q : Query}
    {rest : List Query} (here : s.workers[number]? = some w)
    (queued : (s.channels[c.routing.channelOf number]?).getD [] = q :: rest)
    (sound : w'.Sound c.prewarm) (more : w'.taken = w.taken ++ [q]) (free : w.busy = false)
    (busy : w'.busy = true) (working : w.ended = false) (working' : w'.ended = false) :
    ((s.setChannel (c.routing.channelOf number) rest).setWorker number w').Accounted c qs k := by
  obtain ⟨front, back, split, replaced⟩ := exists_split here
  obtain ⟨left, right, lanes, changed⟩ := exists_split (queue_found queued)
  refine ⟨books.scanner, ?_, ?_, ?_, ?_, ?_, books.answers, books.counts, ?_, ?_, books.result⟩
  · rw [setWorker, List.length_set]
    exact books.crew
  · rw [setWorker, setChannel, List.length_set]
    exact books.lanes
  · intro v member
    rcases mem_setWorker member with before | rfl
    · exact books.sound v before
    · exact sound
  · rw [List.perm_iff_count]
    intro p
    have before := List.perm_iff_count.mp books.dealt p
    simp only [State.taken, lanes, split, List.flatten_append, List.flatten_cons,
      List.flatMap_append, List.flatMap_cons, List.count_append, List.count_cons] at before
    simp only [State.taken, setWorker, setChannel, changed, replaced, more, List.flatten_append,
      List.flatten_cons, List.flatMap_append, List.flatMap_cons, List.count_append,
      List.count_singleton]
    omega
  · have owed := books.owed
    simp only [State.taken, split, List.flatMap_append, List.flatMap_cons, List.length_append,
      List.countP_append, List.countP_cons, free] at owed
    simp only [State.taken, setWorker, setChannel, replaced, more, List.flatMap_append,
      List.flatMap_cons, List.length_append, List.length_singleton, List.countP_append,
      List.countP_cons, busy, if_true]
    simp only [Bool.false_eq_true, if_false] at owed
    omega
  · intro i v found ended
    obtain ⟨closed, empty⟩ := closed_setWorker books here
      (fun done => absurd done (by rw [working']; decide)) i v found ended
    refine ⟨closed, ?_⟩
    by_cases shared : c.routing.channelOf number = c.routing.channelOf i
    · rw [← shared, queued] at empty
      cases empty
    · rw [setWorker, setChannel, List.getElem?_set_ne shared]
      exact empty
  · intro r collected
    have done := (books.told r collected).1 w (List.mem_of_getElem? here)
    rw [working] at done
    cases done

theorem accounted_plain (books : s.Accounted c qs k) (plain : ∀ q ∈ qs, Plain q.label)
    {channel : Nat} {q : Query} {rest : List Query}
    (queued : (s.channels[channel]?).getD [] = q :: rest) : Plain q.label := by
  have waiting : q ∈ s.channels.flatten :=
    List.mem_flatten.mpr ⟨_, List.mem_of_getElem? (queue_found queued), List.mem_cons_self⟩
  obtain ⟨i, p, member, rfl⟩ := mem_numbered (books.dealt.subset (List.mem_append_left _ waiting))
  exact plain p member

theorem accounted_received (books : s.Accounted c qs k) {batch : List Observation}
    {rest : List (List Observation)} (waiting : s.pending = batch :: rest) {collector : Collector}
    {interim : Sink}
    (done : s.collector.receive s.clock batch s.interim = (.ok (), collector, interim)) :
    { s with pending := rest, collector, interim }.Accounted c qs k := by
  have answer := books.answers batch (waiting ▸ List.mem_cons_self)
  have counts := Collector.receive_counts books.counts answer done
  refine ⟨books.scanner, books.crew, books.lanes, books.sound, books.dealt, ?_, ?_, ?_, books.closed,
    books.told, books.result⟩
  · have owed := books.owed
    rw [waiting, List.length_cons] at owed
    simp only [State.taken, counts.queries] at owed ⊢
    omega
  · intro b member
    exact books.answers b (waiting ▸ List.mem_cons_of_mem _ member)
  · exact counts.queries ▸ counts

theorem accounted_ended (books : s.Accounted c qs k) (positive : 0 < c.workers)
    (idle : ∀ w ∈ s.workers, w.ended = true) :
    s.taken.Perm (numbered (quota c.limit qs.length) qs) ∧ s.workers.countP Worker.busy = 0 := by
  have inside : 0 < s.workers.length := books.crew ▸ positive
  have closed :=
    (books.closed 0 _ (List.getElem?_eq_getElem inside) (idle _ (List.getElem_mem inside))).1
  have scanned : k = quota c.limit qs.length := by
    have scanner := books.scanner
    rw [scanEnded] at closed
    cases at_ : s.scanner with
    | finished n =>
      rw [at_] at scanner
      cases scanner
      rfl
    | failed e =>
      rw [at_] at scanner
      cases scanner
    | reading scan | handing q channel before after =>
      rw [at_] at closed
      cases closed
  have empty : s.channels.flatten = [] := by
    rw [List.flatten_eq_nil_iff]
    intro queue member
    obtain ⟨channel, here⟩ := List.mem_iff_getElem?.mp member
    have bound : channel < c.routing.channels c.workers :=
      books.lanes ▸ (List.getElem?_eq_some_iff.mp here).1
    obtain ⟨number, present, same⟩ := Routing.channelOf_covers positive bound
    have there : number < s.workers.length := books.crew ▸ present
    have rest := (books.closed number _ (List.getElem?_eq_getElem there)
      (idle _ (List.getElem_mem there))).2
    rwa [same, here, Option.getD_some] at rest
  have dealt := books.dealt
  rw [empty, List.nil_append, scanned] at dealt
  constructor
  · exact dealt
  · rw [List.countP_eq_zero]
    intro w member
    rw [(Worker.sound_ended (books.sound w member) (idle w member)).1]
    decide

theorem accounted_collected (books : s.Accounted c qs k) (positive : 0 < c.workers)
    (quiet : s.pending = []) (idle : s.workers.all Worker.ended = true) (first : s.collected = none)
    {r : RunSummary} {collector : Collector} {summary : Sink} {directory : Directory}
    (done : s.collector.finish s.clock s.summary s.directory =
      (.ok r, collector, summary, directory)) :
    { s with collector, summary, directory, collected := some r }.Accounted c qs k := by
  have ended : ∀ w ∈ s.workers, w.ended = true := by simpa using idle
  obtain ⟨dealt, free⟩ := accounted_ended books positive ended
  have kept : s.collector.Kept collector := by
    have kept := Collector.finish_kept s.collector s.clock s.summary s.directory
    rwa [done] at kept
  have all : s.collector.queries = quota c.limit qs.length := by
    have owed := books.owed
    rw [quiet, free, dealt.length_eq, length_numbered (le_quota_iff.mp (Nat.le_refl _)).1] at owed
    exact owed.symm
  refine ⟨books.scanner, books.crew, books.lanes, books.sound, books.dealt, ?_, books.answers, ?_,
    books.closed, ?_, ?_⟩
  · simp only [kept.queries]
    exact books.owed
  · simp only [kept.queries]
    exact Collector.counts_kept books.counts kept
  · rintro r' ⟨⟩
    exact ⟨ended, all ▸ Collector.finish_tallies books.counts done⟩
  · intro r' result
    have collected := books.result r' result
    rw [first] at collected
    cases collected

/-- The books are straight, unless the run is over with an error. -/
def Straight (c : Config) (qs : List Query) (s : State) : Prop :=
  (∃ e, s.result = some (.error e)) ∨ ∃ k, s.Accounted c qs k

theorem straight_afterCollecting {reported : Collector.Reported}
    (ok : ∀ collector interim, reported = (.ok (), collector, interim) →
      { s with collector, interim }.Straight c qs) :
    (s.afterCollecting reported).Straight c qs := by
  rcases afterCollecting_cases s reported with failed | ⟨collector, interim, done, same⟩
  · exact .inl failed
  · rw [same]
    exact ok collector interim done

theorem accounted_reading (books : s.Accounted c qs k) {scan : Scan}
    (reading : s.scanner = .reading scan) : scan.At c qs k ∧ s.scanEnded = false := by
  have scanner := books.scanner
  rw [reading] at scanner
  cases scanner with
  | reading here => exact ⟨here, by rw [scanEnded, reading]⟩

theorem accounted_handing (books : s.Accounted c qs k) {query : Query} {channel : Nat}
    {before after : Scan} (handing : s.scanner = .handing query channel before after) :
    (∃ q, query = numberedAs k q ∧ qs[k]? = some q) ∧ channel < c.routing.channels c.workers ∧
      after.At c qs (k + 1) ∧ s.scanEnded = false := by
  have scanner := books.scanner
  rw [handing] at scanner
  cases scanner with
  | @handing _ _ q _ _ next inside there =>
    exact ⟨⟨q, rfl, next⟩, inside, there, by rw [scanEnded, handing]⟩

theorem accounted_enter (w : Worker) {number : Nat} {call : Call} {batch : List Observation}
    (books : (s.setWorker number { w with
      state := .entering call (x.call number w.calls call) s.clock batch
      calls := w.calls ++ [call] }).Accounted c qs k) :
    (s.enter x number w call batch).Accounted c qs k :=
  accounted_alike books ⟨rfl, rfl, rfl, rfl, ⟨rfl, rfl, rfl, rfl⟩, rfl⟩ books.result

theorem accounted_called (books : s.Accounted c qs k) {number : Nat} {w : Worker} {call : Call}
    {reply : Reply} {begun : Nat} {batch : List Observation} (here : s.workers[number]? = some w)
    (state : w.state = .entering call reply begun batch) (finish : Nat) :
    (s.setWorker number { w with state := .leaving call reply begun finish batch }).Accounted
      c qs k := by
  have sound := books.sound w (List.mem_of_getElem? here)
  rw [Worker.Sound, state] at sound
  apply accounted_working books here
  · exact sound
  · rfl
  · rw [Worker.busy, Worker.busy, state]
  · rw [Worker.ended, state]
  · rfl

theorem accounted_started (books : s.Accounted c qs k) {number : Nat} {w : Worker}
    (here : s.workers[number]? = some w) (state : w.state = .starting) :
    (s.setWorker number { w with state := .waiting }).Accounted c qs k := by
  have sound := books.sound w (List.mem_of_getElem? here)
  rw [Worker.Sound, state] at sound
  apply accounted_working books here
  · exact ⟨[], sound⟩
  · rfl
  · rw [Worker.busy, Worker.busy, state]
  · rw [Worker.ended, state]
  · rfl

theorem accounted_stopped (books : s.Accounted c qs k) {number : Nat} {w : Worker}
    (here : s.workers[number]? = some w) (state : w.state = .waiting)
    (empty : (s.channels[c.routing.channelOf number]?).getD [] = [])
    (closed : s.scanEnded = true) :
    (s.setWorker number { w with state := .finished }).Accounted c qs k := by
  have sound := books.sound w (List.mem_of_getElem? here)
  rw [Worker.Sound, state] at sound
  apply accounted_worker books here
  · exact sound
  · rfl
  · rw [Worker.busy, Worker.busy, state]
  · intro _
    rfl
  · intro _
    exact .inr ⟨closed, empty⟩

theorem accounted_sent (books : s.Accounted c qs k) {number : Nat} {w : Worker}
    {batch : List Observation} (here : s.workers[number]? = some w)
    (state : w.state = .sending batch) :
    ({ s with pending := s.pending ++ [batch] }.setWorker number
      { w with state := .waiting }).Accounted c qs k := by
  have sound := books.sound w (List.mem_of_getElem? here)
  rw [Worker.Sound, state] at sound
  obtain ⟨answer, made⟩ := sound
  apply accounted_paid books [batch] here
  · exact made
  · intro b member
    rw [List.mem_singleton.mp member]
    exact answer
  · rfl
  · simp [Worker.busy, state]
  · intro ended
    rw [Worker.ended, state] at ended
    cases ended
  · intro ended
    cases ended

section Dutiful
variable (dutiful : x.Dutiful)
include dutiful

theorem accounted_took (books : s.Accounted c qs k) {number : Nat} {w : Worker} {q : Query}
    {rest : List Query} (here : s.workers[number]? = some w) (state : w.state = .waiting)
    (queued : (s.channels[c.routing.channelOf number]?).getD [] = q :: rest)
    (known : Plain q.label) :
    ((s.setChannel (c.routing.channelOf number) rest).enter x number w ⟨q, false⟩ []).Accounted
      c qs k := by
  have sound := books.sound w (List.mem_of_getElem? here)
  rw [Worker.Sound, state] at sound
  obtain ⟨earlier, made⟩ := sound
  apply accounted_enter w
  apply accounted_taken books here queued
  · constructor
    · exact dutiful.answers number _ _
    · rw [made]
      exact .cold known earlier
  · rw [Worker.taken, firstQueries_append]
    rfl
  · rw [Worker.busy, state]
  · rfl
  · rw [Worker.ended, state]
  · rfl

variable {number : Nat} {w : Worker} {call : Call} {reply : Reply} {begun finish : Nat}
  {batch measured : List Observation}

theorem accounted_repeated (books : s.Accounted c qs k) (here : s.workers[number]? = some w)
    (state : w.state = .leaving call reply begun finish batch) (told : reply.result = .ok measured)
    (twice : c.prewarm = true) (cold : call.warm = false) (elapsed : Nat) :
    (s.enter x number w ⟨call.query, true⟩
      (batch ++ call.observations measured elapsed)).Accounted c qs k := by
  have sound := books.sound w (List.mem_of_getElem? here)
  obtain ⟨answers, calling⟩ := Worker.sound_calling sound state
  obtain ⟨o, single, measures⟩ := observations_measure answers told elapsed
  rw [single]
  apply accounted_enter w
  apply accounted_working books here
  · constructor
    · exact dutiful.answers number _ _
    · exact Worker.calling_again calling twice cold measures
  · rw [Worker.taken, firstQueries_append]
    exact List.append_nil _
  · rw [Worker.busy, Worker.busy, state]
  · rw [Worker.ended, state]
  · rfl

omit dutiful in
theorem accounted_answered (books : s.Accounted c qs k) (here : s.workers[number]? = some w)
    (state : w.state = .leaving call reply begun finish batch) (told : reply.result = .ok measured)
    (last : ¬ (c.prewarm = true ∧ ¬ call.warm = true)) (elapsed : Nat) :
    (s.setWorker number
      { w with state := .sending (batch ++ call.observations measured elapsed) }).Accounted
        c qs k := by
  have sound := books.sound w (List.mem_of_getElem? here)
  obtain ⟨answers, calling⟩ := Worker.sound_calling sound state
  obtain ⟨o, single, measures⟩ := observations_measure answers told elapsed
  rw [single]
  apply accounted_working books here
  · exact Worker.calling_answer calling last measures
  · rfl
  · rw [Worker.busy, Worker.busy, state]
  · rw [Worker.ended, state]
  · rfl

end Dutiful

section Kept
variable (positive : 0 < c.workers) (dutiful : x.Dutiful) (plain : ∀ q ∈ qs, Plain q.label)
include positive dutiful plain

/-- Every move keeps the books straight. -/
theorem straight_moves (running : s.result = none) (straight : s.Straight c qs)
    (moves : s.Moves c x s') : s'.Straight c qs := by
  rcases straight with ⟨e, failed⟩ | ⟨k, books⟩
  · rw [running] at failed
    cases failed
  have same : ∀ t : State, Alike s t → t.result = s.result → t.Straight c qs := by
    intro t alike result
    exact .inr ⟨k, accounted_alike books alike (result ▸ books.result)⟩
  have finished : ∀ (t : State) (r : RunSummary), s.collected = some r → Alike s t →
      t.result = some (.ok r) → t.Straight c qs := by
    intro t r collected alike result
    refine .inr ⟨k, accounted_alike books alike ?_⟩
    intro r' told
    rw [result] at told
    cases told
    exact collected
  cases moves with
  | @found scan after query channel reading next =>
    obtain ⟨here, going⟩ := accounted_reading books reading
    rcases Scan.step_at positive here with
      ⟨last, -⟩ | ⟨q, lane, behind, step, next', inside, there⟩
    · rw [next] at last
      cases last
    · rw [next] at step
      cases step
      exact .inr ⟨k, accounted_scanner books (.handing next' inside there) going⟩
  | @exhausted scan reading next =>
    obtain ⟨here, going⟩ := accounted_reading books reading
    rcases Scan.step_at positive here with ⟨-, last⟩ | ⟨q, lane, behind, step, -⟩
    · have scanned := here.scanned
      subst last
      rw [scanned]
      exact .inr ⟨_, accounted_scanner books .finished going⟩
    · rw [next] at step
      cases step
  | @unreadable scan e reading next =>
    obtain ⟨here, going⟩ := accounted_reading books reading
    rcases Scan.step_at positive here with ⟨last, -⟩ | ⟨q, lane, behind, step, -⟩
    · rw [next] at last
      cases last
    · rw [next] at step
      cases step
  | deserted handing nobody =>
    obtain ⟨-, inside, -, going⟩ := accounted_handing books handing
    rw [accounted_somebody books positive going inside] at nobody
    cases nobody
  | handed handing somebody room =>
    obtain ⟨⟨q, rfl, next⟩, inside, there, going⟩ := accounted_handing books handing
    exact .inr ⟨k + 1, accounted_handed books going next inside there⟩
  | started here state ready => exact .inr ⟨k, accounted_started books here state⟩
  | @refused number w cause here state broken =>
    rw [dutiful.starts number] at broken
    cases broken
  | took here state queued =>
    have known := accounted_plain books plain queued
    exact .inr ⟨k, accounted_took dutiful books here state queued known⟩
  | ended here state empty closed =>
    exact .inr ⟨k, accounted_stopped books here state empty closed⟩
  | called here state company => exact .inr ⟨k, accounted_called books here state _⟩
  | @calledAlone number w call reply begun batch here state alone quiet =>
    have later : { s with clock := s.clock + reply.takes }.Accounted c qs k :=
      accounted_alike books ⟨rfl, rfl, rfl, rfl, ⟨rfl, rfl, rfl, rfl⟩, rfl⟩ books.result
    exact .inr ⟨k, accounted_called later here state _⟩
  | @broke number w call reply begun finish batch cause here state due failed =>
    have sound := books.sound w (List.mem_of_getElem? here)
    rcases (Worker.sound_calling sound state).1 with nothing | ⟨o, one, -⟩
    · rw [failed] at nothing
      cases nothing
    · rw [failed] at one
      cases one
  | repeated here state due told twice cold =>
    exact .inr ⟨k, accounted_repeated dutiful books here state told twice cold _⟩
  | answered here state due told last =>
    exact .inr ⟨k, accounted_answered books here state told last _⟩
  | sent here state room => exact .inr ⟨k, accounted_sent books here state⟩
  | received waiting result =>
    apply straight_afterCollecting
    intro collector interim ok
    exact .inr ⟨k, accounted_received books waiting (result.trans ok)⟩
  | collected quiet idle first done =>
    exact .inr ⟨k, accounted_collected books positive quiet idle first done⟩
  | ticked ticker due collecting result =>
    apply straight_afterCollecting
    intro collector interim ok
    have kept := Collector.tick_kept s.collector s.clock s.interim
    rw [result, ok] at kept
    exact same _ ⟨rfl, rfl, rfl, rfl, kept, rfl⟩ rfl
  | passed later => exact same _ ⟨rfl, rfl, rfl, rfl, ⟨rfl, rfl, rfl, rfl⟩, rfl⟩ rfl
  | joinedScan joining closed => exact same _ ⟨rfl, rfl, rfl, rfl, ⟨rfl, rfl, rfl, rfl⟩, rfl⟩ rfl
  | @joinedWorker number w here joining closed =>
    have sound := books.sound w (List.mem_of_getElem? here)
    exact .inr ⟨k, accounted_worker books here sound rfl rfl id .inl⟩
  | completed collected scanned joined silent =>
    exact finished _ _ collected ⟨rfl, rfl, rfl, rfl, ⟨rfl, rfl, rfl, rfl⟩, rfl⟩ rfl
  | written collected scanned joined file done =>
    exact finished _ _ collected ⟨rfl, rfl, rfl, rfl, ⟨rfl, rfl, rfl, rfl⟩, rfl⟩ rfl
  | uncollected quiet idle first done => exact .inl ⟨_, rfl⟩
  | lostScan joining closed => exact .inl ⟨_, rfl⟩
  | lostWorker here joining closed => exact .inl ⟨_, rfl⟩
  | unwritten collected scanned joined file failed => exact .inl ⟨_, rfl⟩

end Kept

end State

end QueryBench.Run
