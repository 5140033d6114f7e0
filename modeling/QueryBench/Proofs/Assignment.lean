import Mathlib.Data.List.Induction
import QueryBench.Proofs.Conservation
import QueryBench.Proofs.Lifecycle
import QueryBench.Proofs.Queries

/- Which worker gets which query where each has its own channel. The worker of a query is told by the
   queries in front of it alone, so no order of moves changes it, nor the order of a worker's
   queries. -/
namespace QueryBench.Run

/-- How many queries have no affinity. -/
def keyless (qs : List Query) : Nat := qs.countP fun q => q.affinity.isNone

/-- The worker for a query that these were scanned in front of. -/
def workerFor (workers : Nat) (earlier : List Query) (q : Query) : Nat :=
  match q.affinity with
  | some key => workerOfKey key workers
  | none => keyless earlier % workers

def assigned (workers number : Nat) (qs : List Query) : List Query :=
  (qs.zipIdx.filter fun (q, i) => workerFor workers (qs.take i) q = number).map Prod.fst

def withKey (key : String) (qs : List Query) : List Query :=
  qs.filter fun q => q.affinity = some key

theorem workerFor_lt {workers : Nat} (positive : 0 < workers) (earlier : List Query) (q : Query) :
    workerFor workers earlier q < workers := by
  unfold workerFor
  split
  · exact Nat.mod_lt _ positive
  · exact Nat.mod_lt _ positive

theorem keyless_concat (qs : List Query) (q : Query) :
    keyless (qs ++ [q]) = keyless qs + if q.affinity.isNone then 1 else 0 := by
  rw [keyless, List.countP_append, List.countP_singleton]
  rfl

theorem assigned_nil (workers number : Nat) : assigned workers number [] = [] := rfl

theorem assigned_concat (workers number : Nat) (qs : List Query) (q : Query) :
    assigned workers number (qs ++ [q]) =
      assigned workers number qs ++ if workerFor workers qs q = number then [q] else [] := by
  have front : qs.zipIdx.filter (fun (p, i) => workerFor workers ((qs ++ [q]).take i) p = number) =
      qs.zipIdx.filter fun (p, i) => workerFor workers (qs.take i) p = number := by
    apply List.filter_congr
    rintro ⟨p, i⟩ member
    have inside : i < qs.length := List.snd_lt_of_mem_zipIdx member
    have same : (qs ++ [q]).take i = qs.take i :=
      List.take_append_of_le_length (Nat.le_of_lt inside)
    simp only [same]
  rw [assigned, List.zipIdx_append, List.filter_append, List.map_append, front, assigned]
  by_cases mine : workerFor workers qs q = number
  · simp [mine]
  · simp [mine]

theorem assigned_front (workers number : Nat) (front back : List Query) :
    assigned workers number front <+: assigned workers number (front ++ back) := by
  induction back generalizing front with
  | nil => simp
  | cons q back ih =>
    have more := ih (front ++ [q])
    rw [assigned_concat, List.append_assoc] at more
    exact (List.prefix_append _ _).trans more

theorem withKey_append (key : String) (front back : List Query) :
    withKey key (front ++ back) = withKey key front ++ withKey key back :=
  List.filter_append front back

theorem assigned_withKey (workers number : Nat) (key : String) (qs : List Query) :
    withKey key (assigned workers number qs) =
      if number = workerOfKey key workers then withKey key qs else [] := by
  induction qs using List.reverseRecOn with
  | nil => simp [assigned_nil, withKey]
  | append_singleton qs q ih =>
    rw [assigned_concat, withKey_append, withKey_append, ih]
    by_cases keyed : q.affinity = some key
    · have mine : workerFor workers qs q = workerOfKey key workers := by rw [workerFor, keyed]
      by_cases here : number = workerOfKey key workers
      · simp [withKey, keyed, mine, here]
      · simp [withKey, mine, here, Ne.symm here]
    · have absent : withKey key [q] = [] := by simp [withKey, keyed]
      have nothing : withKey key (if workerFor workers qs q = number then [q] else []) = [] := by
        split
        · exact absent
        · rfl
      rw [absent, nothing, List.append_nil, List.append_nil]

theorem withKey_front {key : String} {qs ps : List Query} (front : qs <+: ps) :
    withKey key qs <+: withKey key ps := front.filter _

def scannedQueries (c : Config) (qs : List Query) : List Query :=
  numbered (quota c.limit qs.length) qs

theorem numbered_front {k m : Nat} (le : k ≤ m) (qs : List Query) :
    ∃ back, numbered m qs = numbered k qs ++ back := by
  obtain ⟨more, rfl⟩ := Nat.exists_eq_add_of_le le
  let back := ((qs.drop k).take more).zipIdx (0 + (qs.take k).length)
  refine ⟨back.map fun (q, i) => numberedAs i q, ?_⟩
  rw [numbered, List.take_add, List.zipIdx_append, List.map_append]
  rfl

/-- A scan with a channel for each worker that has handed `k` of the queries out. -/
structure Scan.Deals (c : Config) (qs : List Query) (k : Nat) (s : Scan) : Prop where
  limit : s.limit = c.limit
  workers : s.workers = c.workers
  scanned : s.scanned = k
  within : k ≤ quota c.limit qs.length
  rest : s.reader.queries = qs.drop k
  routing : s.routing = .hashed (keyless (numbered k qs) % c.workers)

theorem route_workerFor (workers : Nat) (earlier : List Query) (q : Query) :
    Routing.route workers q (.hashed (keyless earlier % workers)) =
      (workerFor workers earlier q, .hashed (keyless (earlier ++ [q]) % workers)) := by
  rw [Routing.route, keyless_concat, workerFor]
  cases q.affinity with
  | some key => rfl
  | none =>
    refine Prod.ext rfl (congrArg Routing.hashed ?_)
    exact Nat.mod_add_mod _ _ _

theorem Scan.step_deals {c : Config} {qs : List Query} {k : Nat} {s : Scan}
    (deals : s.Deals c qs k) :
    (s.step = .finished ∧ k = quota c.limit qs.length) ∨ (∃ e, s.step = .failed e) ∨
      ∃ q after, s.step = .hand (numberedAs k q)
          (workerFor c.workers (numbered k qs) (numberedAs k q)) after ∧
        qs[k]? = some q ∧ after.Deals c qs (k + 1) := by
  obtain ⟨limit, workers, rfl, within, rest, routed⟩ := deals
  by_cases full : 0 < s.limit ∧ s.limit ≤ s.scanned
  · exact .inl ⟨by rw [step, if_pos full], quota_reached within (.inl (limit ▸ full))⟩
  · rw [step, if_neg full]
    cases read : s.reader.next with
    | mk given behind =>
      cases given with
      | error e => exact .inr (.inl ⟨e, rfl⟩)
      | ok found =>
        cases found with
        | none =>
          rw [Stream.Reader.queries_end read] at rest
          have all : qs.length ≤ s.scanned := List.drop_eq_nil_iff.mp rest.symm
          exact .inl ⟨rfl, quota_reached within (.inr all)⟩
        | some q =>
          rw [Stream.Reader.queries_query read] at rest
          obtain ⟨next, inside, left⟩ := drop_found rest.symm
          have more : s.scanned + 1 ≤ quota c.limit qs.length :=
            le_quota_iff.mpr ⟨inside, by omega⟩
          refine .inr (.inr ⟨q, { s with
            reader := behind
            routing := .hashed (keyless (numbered (s.scanned + 1) qs) % c.workers)
            scanned := s.scanned + 1 }, ?_, next, limit, workers, rfl, more, left.symm, rfl⟩)
          simp only [workers, routed]
          rw [route_workerFor, numbered_succ next]
          rfl

/-- The scan between two moves, `k` queries having been handed to their workers. -/
inductive Scanner.Deals (c : Config) (qs : List Query) : Nat → Scanner → Prop where
  | reading {k : Nat} {scan : Scan} (deals : scan.Deals c qs k) : Deals c qs k (.reading scan)
  | handing {k : Nat} {q : Query} {before after : Scan} (next : qs[k]? = some q)
      (deals : after.Deals c qs (k + 1)) :
      Deals c qs k (.handing (numberedAs k q)
        (workerFor c.workers (numbered k qs) (numberedAs k q)) before after)
  | finished {k n : Nat} : Deals c qs k (.finished n)
  | failed {k : Nat} {e : Stream.Error} : Deals c qs k (.failed e)

namespace State

def queue (s : State) (number : Nat) : List Query := (s.channels[number]?).getD []

def Broken (s : State) : Prop := ∃ w ∈ s.workers, ∃ e, w.state = .failed e

/-- What every worker has taken and what waits for it are the queries for it, of those that have been
handed out. -/
structure Dealt (c : Config) (qs : List Query) (k : Nat) (s : State) : Prop where
  scanner : s.scanner.Deals c qs k
  within : k ≤ quota c.limit qs.length
  crew : s.workers.length = c.workers
  lanes : s.channels.length = c.workers
  dealt : ∀ number w, s.workers[number]? = some w →
    w.taken ++ s.queue number = assigned c.workers number (numbered k qs)
  idle : ∀ number w, s.workers[number]? = some w → w.state = .finished →
    s.scanEnded = true ∧ s.queue number = []
  all : ∀ n, s.scanner = .finished n → k = quota c.limit qs.length ∨ s.Broken

def Dealing (c : Config) (qs : List Query) (s : State) : Prop := ∃ k, s.Dealt c qs k

variable {c : Config} {x : Executor} {qs : List Query} {k : Nat} {s s' : State}

theorem dealt_alike (dealt : s.Dealt c qs k) (scanner : s'.scanner = s.scanner)
    (workers : s'.workers = s.workers) (channels : s'.channels = s.channels) :
    s'.Dealt c qs k := by
  obtain ⟨deals, within, crew, lanes, dealt, idle, all⟩ := dealt
  refine ⟨scanner ▸ deals, within, workers ▸ crew, channels ▸ lanes, ?_, ?_, ?_⟩
  · rw [workers]
    intro number w here
    rw [queue, channels]
    exact dealt number w here
  · rw [workers]
    intro number w here finished
    rw [queue, channels, scanEnded, scanner]
    exact idle number w here finished
  · rw [scanner, Broken, workers]
    exact all

theorem dealt_worker (dealt : s.Dealt c qs k) {number : Nat} {w w' : Worker}
    (here : s.workers[number]? = some w) (goes : w.Goes x number w') (rest : List Query)
    (same : w'.taken ++ rest = w.taken ++ s.queue number)
    (ended : w'.state = .finished → s.scanEnded = true ∧ rest = [])
    (scanner : s'.scanner = s.scanner) (workers : s'.workers = s.workers.set number w')
    (channels : s'.channels = s.channels.set number rest) : s'.Dealt c qs k := by
  obtain ⟨deals, within, crew, lanes, dealt, idle, all⟩ := dealt
  have inside : number < s.workers.length := (List.getElem?_eq_some_iff.mp here).1
  have lane : number < s.channels.length := by rw [lanes, ← crew]; exact inside
  have closed : s'.scanEnded = s.scanEnded := by rw [scanEnded, scanner, scanEnded]
  have mine : s'.queue number = rest := by
    rw [queue, channels, List.getElem?_set_self lane, Option.getD_some]
  have other : ∀ i, number ≠ i → s'.queue i = s.queue i := by
    intro i different
    rw [queue, channels, List.getElem?_set_ne different, queue]
  refine ⟨scanner ▸ deals, within, ?_, ?_, ?_, ?_, ?_⟩
  · rw [workers, List.length_set, crew]
  · rw [channels, List.length_set, lanes]
  · intro i v found
    by_cases hit : number = i
    · subst hit
      rw [workers, List.getElem?_set_self inside] at found
      cases found
      rw [mine, same]
      exact dealt number w here
    · rw [workers, List.getElem?_set_ne hit] at found
      rw [other i hit]
      exact dealt i v found
  · intro i v found finished
    by_cases hit : number = i
    · subst hit
      rw [workers, List.getElem?_set_self inside] at found
      cases found
      rw [mine, closed]
      exact ended finished
    · rw [workers, List.getElem?_set_ne hit] at found
      rw [other i hit, closed]
      exact idle i v found finished
  · rw [scanner]
    intro n finished
    rcases all n finished with whole | ⟨v, member, e, failed⟩
    · exact .inl whole
    · -- The worker that has failed is another one.
      obtain ⟨i, inside', found⟩ := List.mem_iff_getElem.mp member
      have different : number ≠ i := by
        rintro rfl
        rw [List.getElem?_eq_getElem inside', found] at here
        cases here
        exact goes_not_failed goes e failed
      refine .inr ⟨v, ?_, e, failed⟩
      rw [workers]
      apply List.mem_of_getElem? (i := i)
      rw [List.getElem?_set_ne different, List.getElem?_eq_getElem inside', found]

theorem dealt_went (dealt : s.Dealt c qs k) {number : Nat} {w w' : Worker}
    (here : s.workers[number]? = some w) (goes : w.Goes x number w') (same : w'.taken = w.taken)
    (scanner : s'.scanner = s.scanner) (workers : s'.workers = s.workers.set number w')
    (channels : s'.channels = s.channels)
    (ended : w'.state = .finished → s.scanEnded = true ∧ s.queue number = []) :
    s'.Dealt c qs k := by
  have inside : number < s.workers.length := (List.getElem?_eq_some_iff.mp here).1
  have lane : number < s.channels.length := by
    rw [dealt.lanes, ← dealt.crew]
    exact inside
  have kept : s.channels.set number (s.queue number) = s.channels := by
    rw [queue, List.getElem?_eq_getElem lane, Option.getD_some, List.set_getElem_self]
  exact dealt_worker dealt here goes _ (by rw [same]) ended scanner workers
    (channels.trans kept.symm)

theorem dealt_unfinished (dealt : s.Dealt c qs k) (going : s.scanEnded = false) {number : Nat}
    {w : Worker} (here : s.workers[number]? = some w) : w.state ≠ .finished := by
  intro finished
  have closed := (dealt.idle number w here finished).1
  rw [going] at closed
  cases closed

theorem dealt_scanner (dealt : s.Dealt c qs k) (going : s.scanEnded = false) {scanner : Scanner}
    (deals : scanner.Deals c qs k)
    (all : ∀ n, scanner = .finished n → k = quota c.limit qs.length ∨ s.Broken) :
    { s with scanner }.Dealt c qs k := by
  refine { dealt with scanner := deals, idle := ?_, all := all }
  intro number w here finished
  exact absurd finished (dealt_unfinished dealt going here)

theorem dealt_handed (dealt : s.Dealt c qs k) (going : s.scanEnded = false)
    (positive : 0 < c.workers) {q : Query} {after : Scan} (next : qs[k]? = some q)
    (deals : after.Deals c qs (k + 1)) {channel : Nat}
    (target : channel = workerFor c.workers (numbered k qs) (numberedAs k q)) :
    { s.setChannel channel (s.queue channel ++ [numberedAs k q]) with
      scanner := .reading after }.Dealt c qs (k + 1) := by
  have inside : channel < s.channels.length := by
    rw [dealt.lanes, target]
    exact workerFor_lt positive _ _
  -- the query goes behind the others that wait for its worker, and is the next one for it
  refine ⟨.reading deals, deals.within, dealt.crew, ?_, ?_, ?_, nofun⟩
  · rw [setChannel, List.length_set]
    exact dealt.lanes
  · intro number w here
    rw [numbered_succ next, assigned_concat, ← target, ← dealt.dealt number w here]
    by_cases mine : channel = number
    · subst mine
      rw [if_pos rfl, List.append_assoc]
      simp only [queue, setChannel, List.getElem?_set_self inside, Option.getD_some]
    · rw [if_neg mine, List.append_nil]
      simp only [queue, setChannel, List.getElem?_set_ne mine]
  · intro number w here finished
    exact absurd finished (dealt_unfinished dealt going here)

theorem routing_hashed (hashed : c.hashWorkers = true) : c.routing = .hashed 0 := by
  rw [Config.routing, hashed]
  rfl

theorem channelOf_hashed (hashed : c.hashWorkers = true) (number : Nat) :
    c.routing.channelOf number = number := by
  rw [routing_hashed hashed]
  rfl

/-- Queries are handed to nobody only where the worker that they are for has failed. -/
theorem abandoned_broken (dealt : s.Dealt c qs k) (hashed : c.hashWorkers = true)
    (going : s.scanEnded = false) {channel : Nat} (inside : channel < c.workers)
    (nobody : s.abandoned c channel = true) : s.Broken := by
  have here : channel < s.workers.length := dealt.crew ▸ inside
  have member := List.mk_mem_zipIdx_iff_getElem?.mpr (List.getElem?_eq_getElem here)
  have gone := List.all_eq_true.mp nobody _ member
  have mine := channelOf_hashed hashed channel
  have ended : s.workers[channel].ended = true := by simpa [mine] using gone
  have unfinished := dealt_unfinished dealt going (List.getElem?_eq_getElem here)
  refine ⟨s.workers[channel], List.getElem_mem here, ?_⟩
  unfold Worker.ended at ended
  split at ended
  · rename_i finished
    exact absurd finished unfinished
  · rename_i e failed
    exact ⟨e, failed⟩
  · cases ended

theorem taken_first (w : Worker) (q : Query) (state : Worker.State) :
    Worker.taken { w with state, calls := w.calls ++ [⟨q, false⟩] } = w.taken ++ [q] := by
  rw [Worker.taken, firstQueries_append]
  rfl

theorem taken_again (w : Worker) (q : Query) (state : Worker.State) :
    Worker.taken { w with state, calls := w.calls ++ [⟨q, true⟩] } = w.taken := by
  rw [Worker.taken, firstQueries_append, Worker.taken]
  exact List.append_nil _

/-- Every move leaves the queries with the workers that they are for. -/
theorem dealt_moves (positive : 0 < c.workers) (hashed : c.hashWorkers = true)
    (dealt : s.Dealt c qs k) (moves : s.Moves c x s') : s'.Dealing c qs := by
  have open_ : ∀ {scan}, s.scanner = .reading scan → s.scanEnded = false ∧ scan.Deals c qs k := by
    intro scan reading
    have deals := dealt.scanner
    rw [reading] at deals
    cases deals with
    | reading deals => exact ⟨by rw [scanEnded, reading], deals⟩
  cases moves with
  | @found scan after query channel reading next =>
    obtain ⟨going, deals⟩ := open_ reading
    rcases scan.step_deals deals with ⟨last, -⟩ | ⟨e, failed⟩ | ⟨q, behind, step, here, more⟩
    · rw [next] at last
      cases last
    · rw [next] at failed
      cases failed
    · rw [next] at step
      cases step
      exact ⟨k, dealt_scanner dealt going (.handing here more) (by simp)⟩
  | @exhausted scan reading next =>
    obtain ⟨going, deals⟩ := open_ reading
    rcases scan.step_deals deals with ⟨-, last⟩ | ⟨e, failed⟩ | ⟨q, behind, step, -⟩
    · exact ⟨k, dealt_scanner dealt going .finished fun _ _ => .inl last⟩
    · rw [next] at failed
      cases failed
    · rw [next] at step
      cases step
  | unreadable reading next => exact ⟨k, dealt_scanner dealt (open_ reading).1 .failed (by simp)⟩
  | deserted handing nobody =>
    have going : s.scanEnded = false := by rw [scanEnded, handing]
    have deals := dealt.scanner
    rw [handing] at deals
    cases deals with
    | handing next deals =>
      -- the scan ends early, and the run will not end well
      have broken := abandoned_broken dealt hashed going (workerFor_lt positive _ _) nobody
      exact ⟨k, dealt_scanner dealt going .finished fun _ _ => .inr broken⟩
  | handed handing somebody room =>
    have going : s.scanEnded = false := by rw [scanEnded, handing]
    have deals := dealt.scanner
    rw [handing] at deals
    cases deals with
    | handing next deals => exact ⟨k + 1, dealt_handed dealt going positive next deals rfl⟩
  | started here state ready =>
    exact ⟨k, dealt_went (x := x) dealt here (.starts state ready) rfl rfl rfl rfl (by simp)⟩
  | refused here state broken =>
    exact ⟨k, dealt_went (x := x) dealt here (.refuses state broken) rfl rfl rfl rfl (by simp)⟩
  | @took number w query rest here state queued =>
    rw [channelOf_hashed hashed] at queued
    refine ⟨k, dealt_worker dealt here (.takes state query s.clock) rest ?_ (by simp) rfl rfl ?_⟩
    · rw [taken_first, queue, queued, List.append_assoc]
      rfl
    · rw [channelOf_hashed hashed]
      rfl
  | @ended number w here state empty closed =>
    rw [channelOf_hashed hashed] at empty
    have idle := And.intro closed empty
    exact ⟨k, dealt_went (x := x) dealt here (.stops state) rfl rfl rfl rfl fun _ => idle⟩
  | called here state company =>
    exact ⟨k, dealt_went (x := x) dealt here (.calls state _) rfl rfl rfl rfl (by simp)⟩
  | calledAlone here state alone quiet =>
    exact ⟨k, dealt_went (x := x) dealt here (.calls state _) rfl rfl rfl rfl (by simp)⟩
  | broke here state due failed =>
    exact ⟨k, dealt_went (x := x) dealt here (.breaks state failed) rfl rfl rfl rfl (by simp)⟩
  | repeated here state due told twice cold =>
    exact ⟨k, dealt_went (x := x) dealt here (.repeats state told _ _) (taken_again _ _ _) rfl rfl
      rfl (by simp)⟩
  | answered here state due told last =>
    exact ⟨k, dealt_went (x := x) dealt here (.answers state told _) rfl rfl rfl rfl (by simp)⟩
  | sent here state room =>
    exact ⟨k, dealt_went (x := x) dealt here (.sends state) rfl rfl rfl rfl (by simp)⟩
  | @joinedWorker number w here running closed =>
    have idle := dealt.idle number w here closed
    exact ⟨k, dealt_went (x := x) dealt here (.joins closed) rfl rfl rfl rfl fun _ => idle⟩
  | received waiting result => exact ⟨k, dealt_alike dealt (by simp) (by simp) (by simp)⟩
  | ticked ticker due collecting result =>
    exact ⟨k, dealt_alike dealt (by simp) (by simp) (by simp)⟩
  | collected | uncollected | passed | joinedScan | lostScan | lostWorker | completed | written
  | unwritten => exact ⟨k, dealt_alike dealt rfl rfl rfl⟩

theorem start_dealt (hashed : c.hashWorkers = true) {input : Source} {reader : Stream.Reader}
    (opened : Stream.Reader.start input = .ok reader) (interim summary : Sink)
    (directory : Directory) :
    ∃ s, start c input interim summary directory = .ok s ∧ s.Dealt c reader.queries 0 := by
  refine ⟨_, by rw [start, opened], ?_⟩
  have lanes : c.routing.channels c.workers = c.workers := by
    rw [routing_hashed hashed]
    rfl
  have turn : c.routing = .hashed (keyless (numbered 0 reader.queries) % c.workers) := by
    rw [routing_hashed hashed, numbered_zero, keyless, List.countP_nil, Nat.zero_mod]
  have fresh : ∀ {number : Nat} {w : Worker},
      (List.replicate c.workers ({} : Worker))[number]? = some w → w = {} := fun here =>
    List.eq_of_mem_replicate (List.mem_of_getElem? here)
  refine ⟨.reading ⟨rfl, rfl, rfl, Nat.zero_le _, rfl, turn⟩, Nat.zero_le _, List.length_replicate,
    List.length_replicate.trans lanes, ?_, ?_, by simp⟩
  · intro number w here
    rw [fresh here, numbered_zero, assigned_nil, queue, List.getElem?_replicate]
    split
    · rfl
    · rfl
  · intro number w here finished
    rw [fresh here] at finished
    cases finished

theorem dealt_front (dealt : s.Dealt c qs k) {number : Nat} {w : Worker}
    (here : s.workers[number]? = some w) :
    w.taken <+: assigned c.workers number (scannedQueries c qs) := by
  obtain ⟨back, all⟩ := numbered_front dealt.within qs
  have taken : w.taken <+: assigned c.workers number (numbered k qs) := by
    rw [← dealt.dealt number w here]
    exact List.prefix_append _ _
  rw [scannedQueries, all]
  exact taken.trans (assigned_front _ _ _ _)

theorem dealt_succeeded (dealt : s.Dealt c qs k) (succeeded : s.Succeeded) {number : Nat}
    {w : Worker} (here : s.workers[number]? = some w) :
    w.taken = assigned c.workers number (scannedQueries c qs) := by
  obtain ⟨n, scanned⟩ := succeeded.scan
  have empty := (dealt.idle number w here (succeeded.workers w (List.mem_of_getElem? here))).2
  have mine := dealt.dealt number w here
  rw [empty, List.append_nil] at mine
  rcases dealt.all n scanned with all | ⟨v, member, e, failed⟩
  · rw [mine, scannedQueries, all]
  · rw [succeeded.workers v member] at failed
    cases failed

end State

/-- Where each worker has its own channel, and in whatever order the parts of a run move: what a
worker has taken is the beginning of the queries for it, and all of them if the run ends well. The
queries with one key are taken by the worker for the key, in their order, and by nobody else. Queries
only ever go to channels that there are. -/
theorem queries_reach_their_workers (c : Config) (positive : 0 < c.workers)
    (hashed : c.hashWorkers = true) (x : Executor) (input : Source) (reader : Stream.Reader)
    (opened : Stream.Reader.start input = .ok reader) (interim summary : Sink)
    (directory : Directory) :
    (∀ earlier q, workerFor c.workers earlier q < c.workers) ∧
    ∃ s₀, State.start c input interim summary directory = .ok s₀ ∧ ∀ s, s₀.Reached c x s →
      (∃ k, k ≤ quota c.limit reader.queries.length ∧ ∀ number w, s.workers[number]? = some w →
        w.taken ++ s.queue number = assigned c.workers number (numbered k reader.queries)) ∧
      (∀ number w, s.workers[number]? = some w →
        w.taken <+: assigned c.workers number (scannedQueries c reader.queries) ∧
        (∀ r, s.result = some (.ok r) →
          w.taken = assigned c.workers number (scannedQueries c reader.queries)) ∧
        ∀ key, withKey key w.taken <+: if number = workerOfKey key c.workers then
          withKey key (scannedQueries c reader.queries) else []) ∧
      s.workers.length = c.workers ∧
      ∀ q channel before after, s.scanner = .handing q channel before after →
        channel < s.channels.length := by
  refine ⟨workerFor_lt positive, ?_⟩
  obtain ⟨s₀, started, first⟩ := State.start_dealt hashed opened interim summary directory
  refine ⟨s₀, started, ?_⟩
  intro s reached
  have kept : s.Dealing c reader.queries := by
    refine State.reached_invariant ⟨0, first⟩ ?_ reached
    rintro before after - ⟨k, dealt⟩ moves
    exact State.dealt_moves positive hashed dealt moves
  obtain ⟨k, dealt⟩ := kept
  have orderly := State.reached_orderly (State.start_eq started).2.1 reached
  refine ⟨⟨k, dealt.within, dealt.dealt⟩, ?_, dealt.crew, ?_⟩
  · intro number w here
    have front := State.dealt_front dealt here
    refine ⟨front, ?_, ?_⟩
    · intro r done
      have past := State.orderly_over orderly done
      exact State.dealt_succeeded dealt (State.over_well past done).2 here
    · intro key
      rw [← assigned_withKey]
      exact withKey_front front
  · intro q channel before after handing
    have deals := dealt.scanner
    rw [handing] at deals
    cases deals with
    | handing next deals =>
      rw [dealt.lanes]
      exact workerFor_lt positive _ _

def turns : List Query :=
  [{ label := "a" }, { label := "b", affinity := some "host_1" }, { label := "c" }]

def pinned : Config := { workers := 2, hashWorkers := true, percentiles := [] }

theorem turns_reach_their_workers :
    (0 < pinned.workers ∧ pinned.hashWorkers = true) ∧
      ∃ reader s₀ s r, Stream.Reader.start (.ofBytes (Stream.encoded turns)) = .ok reader ∧
        State.start pinned (.ofBytes (Stream.encoded turns)) {} {} {} = .ok s₀ ∧
        s₀.Reached pinned (.noop none 0 false) s ∧ s.result = some (.ok r) ∧
        reader.queries = turns ∧
        ∀ number w, s.workers[number]? = some w →
          w.taken = assigned 2 number (numbered 3 turns) := by
  have read : (Stream.Reader.start (.ofBytes (Stream.encoded turns))).toOption.map
      Stream.Reader.queries = some turns := by decide +kernel
  cases opened : Stream.Reader.start (.ofBytes (Stream.encoded turns)) with
  | error e =>
    rw [opened] at read
    cases read
  | ok reader =>
    rw [opened] at read
    have read : reader.queries = turns := Option.some.inj read
    obtain ⟨-, s₀, started, reaches⟩ := queries_reach_their_workers pinned (by decide) rfl
      (.noop none 0 false) _ reader opened {} {} {}
    have all : (State.start pinned (.ofBytes (Stream.encoded turns)) {} {} {}).toOption.map
        (fun s => (s.go pinned (.noop none 0 false) 80).ended) = some true := by decide +kernel
    rw [started] at all
    obtain ⟨r, done⟩ := State.ended_result (Option.some.inj all)
    have reached : s₀.Reached pinned (.noop none 0 false) (s₀.go pinned (.noop none 0 false) 80) :=
      State.go_reached .start 80
    refine ⟨⟨by decide, rfl⟩, reader, s₀, _, r, rfl, started, reached, done, read, ?_⟩
    intro number w here
    rw [((reaches _ reached).2.1 number w here).2.1 r done, read]
    rfl

end QueryBench.Run
