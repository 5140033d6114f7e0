import QueryBench.Proofs.HandingOut
import QueryBench.Proofs.Moves
import QueryBench.Run.Schedule

/- The limit of a scan. Once so many queries have been handed out not a byte more is read: inputs
   that agree up to there give the same queries, and no run can tell them apart. -/
namespace QueryBench.Run
open QueryBench.Stream (Framed)

/-- A scan that has as many frames before it as its limit lets through. -/
structure Scan.Ready (s : Scan) (qs : List Query) : Prop where
  limited : 0 < s.limit
  left : s.limit = s.scanned + qs.length
  before : ∃ tail failure?, s.Before tail failure? qs

/-- Scans that differ in their readers alone, and in these only behind the limit. -/
structure Scan.Paired (s t : Scan) : Prop where
  same : t = { s with reader := t.reader }
  ready : ∃ qs, s.Ready qs ∧ t.Ready qs

namespace Scan
variable {s t : Scan} {q : Query} {qs : List Query}

theorem step_ready (ready : s.Ready (q :: qs)) :
    ∃ reader, s.step = .hand (numberedAs s.scanned q)
        (s.routing.route s.workers (numberedAs s.scanned q)).1
        (s.past (numberedAs s.scanned q) reader) ∧
      (s.past (numberedAs s.scanned q) reader).Ready qs := by
  obtain ⟨limited, left, tail, failure?, before⟩ := ready
  rw [List.length_cons] at left
  obtain ⟨reader, next, behind⟩ := step_before (by omega) before
  refine ⟨reader, next, limited, ?_, tail, failure?, behind⟩
  simp only [past]
  omega

theorem step_paired (paired : s.Paired t) :
    (s.step = .finished ∧ t.step = .finished) ∨
    ∃ query channel s' t', s.step = .hand query channel s' ∧ t.step = .hand query channel t' ∧
      s'.Paired t' := by
  obtain ⟨same, qs, ready, ready'⟩ := paired
  cases qs with
  | nil =>
    left
    have reached := ready.left
    have reached' := ready'.left
    rw [List.length_nil] at reached reached'
    constructor
    · exact step_limited ready.limited (by omega)
    · exact step_limited ready'.limited (by omega)
  | cons q qs =>
    right
    obtain ⟨reader, next, behind⟩ := step_ready ready
    obtain ⟨reader', next', behind'⟩ := step_ready ready'
    rw [same] at next' behind' ⊢
    exact ⟨_, _, _, _, next, next', rfl, qs, behind, behind'⟩

end Scan

/-- Scanners that do the same, whatever stands behind the limit. -/
inductive Scanner.Paired : Scanner → Scanner → Prop where
  | reading {s t : Scan} (paired : s.Paired t) : Paired (.reading s) (.reading t)
  | handing (query : Query) (channel : Nat) {before after before' after' : Scan}
      (same : before' = { before with reader := before'.reader }) (paired : after.Paired after') :
      Paired (.handing query channel before after) (.handing query channel before' after')
  | finished (scanned : Nat) : Paired (.finished scanned) (.finished scanned)

namespace State
variable {c : Config} {x : Executor} {s s' t : State} {scanner : Scanner}

def withScanner (scanner : Scanner) (s : State) : State := { s with scanner }

/-- No failure to read the queries has come up. -/
structure Readable (s : State) : Prop where
  result : ∀ e, s.result ≠ some (.error (.decode e))
  workers : ∀ (number : Nat) (w : Worker), s.workers[number]? = some w →
    ∀ e, w.state ≠ .failed (.decode e)

theorem goes_readable {number : Nat} {w w' : Worker} (readable : ∀ e, w.state ≠ .failed (.decode e))
    (goes : w.Goes x number w') (e : Stream.Error) : w'.state ≠ .failed (.decode e) := by
  cases goes with
  | starts | refuses | takes | stops | calls | breaks | repeats | answers | sends => nofun
  | joins state => exact readable e

theorem afterCollecting_readable (running : s.result = none) (reported : Latency.Collector.Reported)
    (e : Stream.Error) : (s.afterCollecting reported).result ≠ some (.error (.decode e)) := by
  obtain ⟨result, collector, interim⟩ := reported
  cases result with
  | ok _ =>
    rw [afterCollecting, running]
    nofun
  | error _ => nofun

theorem moves_readable (running : s.result = none) (readable : s.Readable)
    (whole : ∀ e, s.scanner ≠ .failed e) (moves : s.Moves c x s') : s'.Readable where
  result := by
    intro e
    cases moves with
    | received waiting result => exact afterCollecting_readable (by exact running) _ e
    | ticked ticker due collecting result => exact afterCollecting_readable (by exact running) _ e
    | lostScan _ closed => exact absurd closed (whole _)
    | lostWorker here _ closed =>
      rintro ⟨⟩
      exact readable.workers _ _ here e closed
    | uncollected | completed | written | unwritten => nofun
    | found | exhausted | unreadable | deserted | handed | started | refused | took | ended | called
    | calledAlone | broke | repeated | answered | sent | collected | passed | joinedScan
    | joinedWorker => exact readable.result e
  workers := by
    intro number w here
    exact moves_each_worker (fun number w here => readable.workers number w here)
      (fun number w w' held goes => goes_readable held goes) moves here

/-- States of runs that have not been told apart. -/
structure Paired (s t : State) : Prop where
  same : t = s.withScanner t.scanner
  scanners : s.scanner.Paired t.scanner
  readable : s.Readable

theorem leave_withScanner (number : Nat) (w : Worker) (call : Call) (reply : Reply) (begun : Nat)
    (batch : List Latency.Observation) :
    (s.withScanner scanner).leave c x number w call reply begun batch =
      (s.leave c x number w call reply begun batch).withScanner scanner := by
  unfold leave
  split
  · rfl
  · simp only
    split
    · rfl
    · rfl

theorem work?_withScanner (ended : (s.withScanner scanner).scanEnded = s.scanEnded) (number : Nat) :
    (s.withScanner scanner).work? c x number =
      (s.work? c x number).map (withScanner scanner) := by
  have workers : (s.withScanner scanner).workers = s.workers := rfl
  have channels : (s.withScanner scanner).channels = s.channels := rfl
  have branches := @apply_ite _ _ (Option.map (withScanner scanner))
  unfold work?
  rw [ended, workers, channels]
  cases s.workers[number]? with
  | none => rfl
  | some w =>
    cases state : w.state with
    | starting | finished | failed e =>
      simp only [state]
      rfl
    | waiting =>
      simp only [state]
      cases (s.channels[c.routing.channelOf number]?).getD [] with
      | nil =>
        simp only [branches]
        rfl
      | cons query rest => rfl
    | entering call reply begun batch =>
      simp only [state, branches]
      rfl
    | leaving call reply begun finish batch =>
      simp only [state, branches, leave_withScanner]
      rfl
    | sending batch =>
      simp only [state, branches]
      rfl

theorem afterCollecting_withScanner (reported : Latency.Collector.Reported) :
    (s.withScanner scanner).afterCollecting reported =
      (s.afterCollecting reported).withScanner scanner := by
  obtain ⟨result, collector, interim⟩ := reported
  cases result with
  | ok _ => rfl
  | error _ => rfl

theorem collect?_withScanner :
    (s.withScanner scanner).collect? = s.collect?.map (withScanner scanner) := by
  unfold collect?
  have pending : (s.withScanner scanner).pending = s.pending := rfl
  rw [pending]
  cases s.pending with
  | cons batch rest =>
    exact congrArg some (afterCollecting_withScanner (s := { s with pending := rest }) _)
  | nil =>
    have finished : (s.withScanner scanner).collector.finish (s.withScanner scanner).clock
        (s.withScanner scanner).summary (s.withScanner scanner).directory =
          s.collector.finish s.clock s.summary s.directory := rfl
    simp only [finished, apply_ite (Option.map (withScanner scanner))]
    obtain ⟨result, collector, summary, directory⟩ :=
      s.collector.finish s.clock s.summary s.directory
    cases result with
    | ok r => rfl
    | error e => rfl

theorem tick?_withScanner : (s.withScanner scanner).tick? = s.tick?.map (withScanner scanner) := by
  have ticker : (s.withScanner scanner).ticker = s.ticker := rfl
  unfold tick?
  rw [ticker]
  cases s.ticker with
  | none => rfl
  | some t =>
    have collected := @afterCollecting_withScanner { s with ticker := some (t.fire s.clock) }
      scanner (s.collector.tick s.clock s.interim)
    simp only [apply_ite (Option.map (withScanner scanner)), Option.map_some, ← collected]
    rfl

theorem pass?_withScanner (now : Nat) :
    (s.withScanner scanner).pass? now = (s.pass? now).map (withScanner scanner) := by
  unfold pass?
  simp only [apply_ite (Option.map (withScanner scanner))]
  rfl

theorem joinWorker?_withScanner (number : Nat) :
    (s.withScanner scanner).joinWorker? number =
      (s.joinWorker? number).map (withScanner scanner) := by
  have workers : (s.withScanner scanner).workers = s.workers := rfl
  unfold joinWorker?
  rw [workers]
  cases s.workers[number]? with
  | none => rfl
  | some w =>
    simp only [apply_ite (Option.map (withScanner scanner))]
    cases w.state with
    | starting | waiting | entering | leaving | sending | finished | failed => rfl

theorem complete?_withScanner :
    (s.withScanner scanner).complete? c = (s.complete? c).map (withScanner scanner) := by
  have collected : (s.withScanner scanner).collected = s.collected := rfl
  unfold complete?
  rw [collected]
  cases s.collected with
  | none => rfl
  | some r =>
    simp only [apply_ite (Option.map (withScanner scanner))]
    cases c.resultsFile with
    | none => rfl
    | some path =>
      have written : (s.withScanner scanner).directory = s.directory := rfl
      simp only [written]
      obtain ⟨result, directory⟩ := s.directory.write path (Text.bytes (resultsText c r))
      cases result with
      | ok _ => rfl
      | error fault => rfl

theorem joinScan?_withScanner (paired : s.scanner.Paired scanner) :
    (s.withScanner scanner).joinScan? = s.joinScan?.map (withScanner scanner) := by
  have scanners : (s.withScanner scanner).scanner = scanner := rfl
  unfold joinScan?
  rw [scanners]
  simp only [apply_ite (Option.map (withScanner scanner))]
  generalize s.scanner = own at paired
  cases paired with
  | reading | handing | finished => rfl

theorem scanEnded_withScanner (paired : s.scanner.Paired scanner) :
    (s.withScanner scanner).scanEnded = s.scanEnded := by
  have scanners : (s.withScanner scanner).scanner = scanner := rfl
  unfold scanEnded
  rw [scanners]
  generalize s.scanner = own at paired
  cases paired with
  | reading | handing | finished => rfl

theorem step?_withScanner (paired : s.scanner.Paired scanner) {a : Actor} (other : a ≠ .scanner) :
    (s.withScanner scanner).step? c x a = (s.step? c x a).map (withScanner scanner) := by
  have result : (s.withScanner scanner).result = s.result := rfl
  unfold step?
  rw [result, apply_ite (Option.map (withScanner scanner))]
  cases a with
  | scanner => exact absurd rfl other
  | worker number => simp only [work?_withScanner (scanEnded_withScanner paired), Option.map_none]
  | collector => simp only [collect?_withScanner, Option.map_none]
  | ticker => simp only [tick?_withScanner, Option.map_none]
  | clock now => simp only [pass?_withScanner, Option.map_none]
  | joinScan => simp only [joinScan?_withScanner paired, Option.map_none]
  | joinWorker number => simp only [joinWorker?_withScanner, Option.map_none]
  | complete => simp only [complete?_withScanner, Option.map_none]

/-- Either both can move or neither can, and the scanners stay paired. -/
inductive PairedNext : Option State → Option State → Prop where
  | stuck : PairedNext none none
  | moved {s t : State} (same : t = s.withScanner t.scanner)
      (scanners : s.scanner.Paired t.scanner) : PairedNext (some s) (some t)

theorem scan?_paired (scanners : s.scanner.Paired scanner) :
    PairedNext (s.scan? c) ((s.withScanner scanner).scan? c) := by
  have same : (s.withScanner scanner).scanner = scanner := rfl
  have channels : (s.withScanner scanner).channels = s.channels := rfl
  have abandoned : (s.withScanner scanner).abandoned c = s.abandoned c := rfl
  unfold scan?
  rw [same, channels, abandoned]
  generalize s.scanner = own at scanners
  cases scanners with
  | @reading scan scan' paired =>
    rcases Scan.step_paired paired with
      ⟨stopped, stopped'⟩ | ⟨query, channel, after, after', next, next', behind⟩
    · have scanned : scan'.scanned = scan.scanned := by rw [paired.same]
      simp only [stopped, stopped', scanned]
      exact .moved rfl (.finished _)
    · simp only [next, next']
      exact .moved rfl (.handing query channel paired.same behind)
  | @handing query channel before after before' after' readers paired =>
    have scanned : before'.scanned = before.scanned := by rw [readers]
    have routing : before'.routing = before.routing := by rw [readers]
    simp only [scanned, routing]
    split
    · exact .moved rfl (.finished _)
    · split
      · exact .moved rfl (.reading paired)
      · exact .stuck
  | finished n => exact .stuck

theorem paired_left {scanner other : Scanner} (paired : scanner.Paired other) :
    scanner.Paired scanner := by
  cases paired with
  | reading paired =>
    obtain ⟨-, qs, ready, -⟩ := paired
    exact .reading ⟨rfl, qs, ready, ready⟩
  | handing query channel same paired =>
    obtain ⟨-, qs, ready, -⟩ := paired
    exact .handing query channel rfl ⟨rfl, qs, ready, ready⟩
  | finished scanned => exact .finished scanned

theorem whole_scanner {own : Scanner} (paired : own.Paired scanner) (e : Stream.Error) :
    own ≠ .failed e := by
  intro failed
  rw [failed] at paired
  cases paired

theorem step?_scanner (paired : s.scanner.Paired scanner) {a : Actor} (other : a ≠ .scanner)
    (moved : s.step? c x a = some s') : s'.scanner = s.scanner := by
  have again := step?_withScanner (c := c) (x := x) (paired_left paired) other
  have same : s.withScanner s.scanner = s := rfl
  rw [same, moved, Option.map_some] at again
  rw [Option.some.inj again]
  rfl

theorem step?_next (scanners : s.scanner.Paired scanner) (a : Actor) :
    PairedNext (s.step? c x a) ((s.withScanner scanner).step? c x a) := by
  by_cases scanning : a = .scanner
  · have result : (s.withScanner scanner).result = s.result := rfl
    subst scanning
    unfold step?
    rw [result]
    split
    · exact .stuck
    · exact scan?_paired scanners
  · rw [step?_withScanner scanners scanning]
    cases moved : s.step? c x a with
    | none => exact .stuck
    | some s' =>
      have kept := step?_scanner scanners scanning moved
      exact .moved rfl (kept ▸ scanners)

/-- Whoever moves, paired states stay paired. -/
theorem step?_paired (paired : s.Paired t) (a : Actor) :
    (s.step? c x a = none ∧ t.step? c x a = none) ∨
    ∃ s' t', s.step? c x a = some s' ∧ t.step? c x a = some t' ∧ s'.Paired t' := by
  obtain ⟨same, scanners, readable⟩ := paired
  have next := step?_next (c := c) (x := x) scanners a
  rw [← same] at next
  generalize stepped : s.step? c x a = moved at next
  generalize t.step? c x a = moved' at next
  cases next with
  | stuck => exact .inl ⟨rfl, rfl⟩
  | @moved s' t' same' scanners' =>
    obtain ⟨running, moves⟩ := step?_moves stepped
    have readable' := moves_readable running readable (whole_scanner scanners) moves
    exact .inr ⟨s', t', rfl, rfl, same', scanners', readable'⟩

/-- What becomes of a state when these actors move one after the other, if each of them can. -/
def play? (c : Config) (x : Executor) : List Actor → State → Option State
  | [], s => some s
  | a :: rest, s => (s.step? c x a).bind (play? c x rest)

theorem play?_paired (paired : s.Paired t) (actors : List Actor) :
    (s.play? c x actors = none ∧ t.play? c x actors = none) ∨
    ∃ s' t', s.play? c x actors = some s' ∧ t.play? c x actors = some t' ∧ s'.Paired t' := by
  induction actors generalizing s t with
  | nil => exact .inr ⟨s, t, rfl, rfl, paired⟩
  | cons a rest ih =>
    simp only [play?]
    rcases step?_paired (c := c) (x := x) paired a with
      ⟨stuck, stuck'⟩ | ⟨s', t', moved, moved', next⟩
    · rw [stuck, stuck']
      exact .inl ⟨rfl, rfl⟩
    · rw [moved, moved']
      exact ih next

theorem scanned?_paired (paired : s.Paired t) : t.scanned? = s.scanned? := by
  obtain ⟨-, scanners, -⟩ := paired
  unfold scanned?
  generalize s.scanner = own at scanners
  generalize t.scanner = other at scanners
  cases scanners with
  | reading | handing | finished => rfl

theorem start_paired {qs : List Query} {front tail tail' : List UInt8}
    {failure? failure?' : Option Fault} (limited : 0 < c.limit) (all : qs.length = c.limit)
    (framed : Framed front qs) {one other : Source}
    (has : one.Has (Stream.identifier ++ (front ++ tail)) failure?)
    (has' : other.Has (Stream.identifier ++ (front ++ tail')) failure?') (interim summary : Sink)
    (directory : Directory) :
    ∃ s t, start c one interim summary directory = .ok s ∧
      start c other interim summary directory = .ok t ∧ s.Paired t := by
  obtain ⟨rest, opened, left⟩ := Stream.Reader.start_has has
  obtain ⟨rest', opened', left'⟩ := Stream.Reader.start_has has'
  have nobody : ∀ w ∈ List.replicate c.workers ({} : Worker), w = {} := fun w member =>
    List.eq_of_mem_replicate member
  have left_ : c.limit = 0 + qs.length := by rw [all, Nat.zero_add]
  refine ⟨_, _, by rw [start, opened], by rw [start, opened'], rfl, ?_, ?_, ?_⟩
  · exact .reading ⟨rfl, qs, ⟨limited, left_, tail, failure?, front, left, framed⟩,
      limited, left_, tail', failure?', front, left', framed⟩
  · intro e failed
    cases failed
  · intro number w here e failed
    rw [nobody w (List.mem_of_getElem? here)] at failed
    cases failed

end State

/-- Two states that differ in what the scanners have before them alone, and in which reading has not
failed. -/
structure State.Indistinct (s t : State) : Prop where
  same : t = { s with scanner := t.scanner }
  scanned : t.scanned? = s.scanned?
  whole : ∀ e, s.scanner ≠ .failed e
  readable : ∀ e, s.result ≠ some (.error (.decode e))

theorem State.paired_indistinct {s t : State} (paired : s.Paired t) : s.Indistinct t where
  same := paired.same
  scanned := scanned?_paired paired
  whole := whole_scanner paired.scanners
  readable := paired.readable.result

/-- A limit shuts out everything behind it. Two inputs that begin with the same frames, as many as
the limit lets through, give the same queries under the same numbers to the same channels, as far as
the receivers take them, and the same count; and not a byte behind these frames is read. Nor can a
run tell the inputs apart, whoever moves in whatever order. Without a limit, or with fewer frames
than it lets through before a clean end, all queries are handed out. -/
theorem nothing_behind_the_limit_is_read (limit : Nat) (qs : List Query) (front : List UInt8)
    (framed : Framed front qs) :
    (0 < limit → qs.length = limit →
      ∀ (one other : Source) (tail tail' : List UInt8) (failure? failure?' : Option Fault),
        one.Has (Stream.identifier ++ (front ++ tail)) failure? →
        other.Has (Stream.identifier ++ (front ++ tail')) failure?' →
        (∃ reader reader', Stream.Reader.start one = .ok reader ∧
          Stream.Reader.start other = .ok reader' ∧ ∀ workers routing takes, ∃ handed,
            Scan.HandsOut takes (numbered limit qs) tail failure?
              { reader, limit, workers, routing } handed ∧
            Scan.HandsOut takes (numbered limit qs) tail' failure?'
              { reader := reader', limit, workers, routing } handed) ∧
        ∀ (c : Config) (x : Executor) (interim summary : Sink) (directory : Directory),
          c.limit = limit → ∃ s t, State.start c one interim summary directory = .ok s ∧
            State.start c other interim summary directory = .ok t ∧ ∀ actors,
              (s.play? c x actors = none ∧ t.play? c x actors = none) ∨
              ∃ s' t', s.play? c x actors = some s' ∧ t.play? c x actors = some t' ∧
                s'.Indistinct t') ∧
    (limit = 0 ∨ qs.length < limit →
      ∀ input : Source, input.Holds (Stream.identifier ++ front) →
        ∃ reader, Stream.Reader.start input = .ok reader ∧ ∀ workers routing takes, ∃ handed,
          Scan.HandsOut takes (numbered qs.length qs) [] none
            { reader, limit, workers, routing } handed) := by
  constructor
  · intro limited all one other tail tail' failure? failure?' has has'
    subst all
    constructor
    · obtain ⟨rest, opened, left⟩ := Stream.Reader.start_has has
      obtain ⟨rest', opened', left'⟩ := Stream.Reader.start_has has'
      refine ⟨_, _, opened, opened', ?_⟩
      intro workers routing takes
      have stops : 0 < qs.length ∧ qs.length = qs.length := ⟨limited, rfl⟩
      exact ⟨_, Scan.handsOut_before rfl ⟨front, left, framed⟩ (.inr (Nat.le_refl _)) (.inl stops),
        Scan.handsOut_before rfl ⟨front, left', framed⟩ (.inr (Nat.le_refl _)) (.inl stops)⟩
    · intro c x interim summary directory sized
      obtain ⟨s, t, started, started', paired⟩ := State.start_paired (sized ▸ limited) sized.symm
        framed has has' interim summary directory
      refine ⟨s, t, started, started', ?_⟩
      intro actors
      rcases State.play?_paired (c := c) (x := x) paired actors with
        stuck | ⟨s', t', played, played', paired'⟩
      · exact .inl stuck
      · exact .inr ⟨s', t', played, played', State.paired_indistinct paired'⟩
  · intro few input holds
    have has := Source.holds_has holds
    rw [← List.append_nil front] at has
    obtain ⟨rest, opened, left⟩ := Stream.Reader.start_has has
    refine ⟨_, opened, ?_⟩
    intro workers routing takes
    exact ⟨_, Scan.handsOut_before rfl ⟨front, left, framed⟩ (few.imp_right Nat.le_of_lt)
      (.inr ⟨rfl, rfl⟩)⟩

def torn : Source := .ofBytes (Stream.encoded Stream.pair ++ [0, 0, 0, 9])

def failing : Source := ⟨Source.runOf (Stream.encoded Stream.pair), some .readFailed⟩

def everybody (_ : List (Nat × Query)) (_ : Nat × Query) : Bool := true

theorem two_before_damage :
    (Framed (Stream.pair.flatMap fun q => Stream.frame (Codec.encode q)) Stream.pair ∧
      0 < 2 ∧ Stream.pair.length = 2) ∧
    (∃ reader reader' handed, Stream.Reader.start torn = .ok reader ∧
      Stream.Reader.start failing = .ok reader' ∧
      handed.map Prod.snd = numbered 2 Stream.pair ∧
      Scan.HandsOut everybody (numbered 2 Stream.pair) [0, 0, 0, 9] none
        { reader, limit := 2, workers := 3, routing := .hashed 1 } handed ∧
      Scan.HandsOut everybody (numbered 2 Stream.pair) [] (some .readFailed)
        { reader := reader', limit := 2, workers := 3, routing := .hashed 1 } handed) ∧
    ∃ reader handed, Stream.Reader.start (.ofBytes (Stream.encoded Stream.pair)) = .ok reader ∧
      Scan.HandsOut everybody (numbered 2 Stream.pair) [] none
        { reader, limit := 0, workers := 3, routing := .shared } handed := by
  have framed : Framed (Stream.pair.flatMap fun q => Stream.frame (Codec.encode q)) Stream.pair :=
    Stream.framed_encoded (by decide)
  have has : torn.Has (Stream.identifier ++
      ((Stream.pair.flatMap fun q => Stream.frame (Codec.encode q)) ++ [0, 0, 0, 9])) none := by
    rw [← List.append_assoc]
    exact Source.holds_has (Source.ofBytes_holds _)
  have has' : failing.Has (Stream.identifier ++
      ((Stream.pair.flatMap fun q => Stream.frame (Codec.encode q)) ++ [])) (some .readFailed) := by
    rw [List.append_nil]
    exact ⟨rfl, Source.content_runOf (Stream.encoded Stream.pair)⟩
  obtain ⟨scans, -⟩ := (nothing_behind_the_limit_is_read 2 _ _ framed).1 (by decide) rfl torn
    failing _ _ _ _ has has'
  obtain ⟨reader, reader', opened, opened', deals⟩ := scans
  obtain ⟨handed, dealt, dealt'⟩ := deals 3 (.hashed 1) everybody
  obtain ⟨whole, started, unlimited⟩ := (nothing_behind_the_limit_is_read 0 _ _ framed).2 (.inl rfl)
    _ (Source.ofBytes_holds (Stream.encoded Stream.pair))
  obtain ⟨handed', dealt''⟩ := unlimited 3 .shared everybody
  have all : handed.map Prod.snd = numbered 2 Stream.pair := dealt.all fun _ _ => rfl
  exact ⟨⟨framed, by decide, rfl⟩, ⟨reader, reader', handed, opened, opened', all, dealt, dealt'⟩,
    whole, handed', started, dealt''⟩

end QueryBench.Run
