import QueryBench.Proofs.Interleave
import QueryBench.Proofs.Lockstep

/- Which workloads can be written. Neither the random stream nor the queries before one decide
   whether it can be drawn, only the range of time, the number of hosts and the kind. So a process
   writes its whole share, or fails before its first frame. -/
namespace QueryBench
open Workload

theorem ok_behind_guard {ε α β : Type} (f : β → Except ε α) {bad : Prop} [Decidable bad] {x y : β}
    {e : ε} (refused : f x = .error e) :
    (∃ a, f (if bad then x else y) = .ok a) ↔ ¬ bad ∧ ∃ a, f y = .ok a := by
  by_cases holds : bad
  · rw [if_pos holds, refused]
    exact iff_of_false (by simp) (fun both => both.1 holds)
  · rw [if_neg holds]
    exact (and_iff_right holds).symm

theorem Interval.randomWindow_ok_iff (range : Interval) (length : Duration) (k : Keystream) :
    (∃ window, (range.randomWindow length k).1 = .ok window) ↔ length.nanos ≤ range.span := by
  unfold randomWindow
  refine Iff.trans (ok_behind_guard Prod.fst rfl) ((and_iff_left ?_).trans Nat.not_lt)
  split
  · exact ⟨_, rfl⟩
  · exact ⟨_, rfl⟩

theorem Interval.le_span_iff (range : Interval) (n : Nat) :
    n ≤ range.span ↔ (n : Int) ≤ range.finish - range.start := by
  have ordered := range.ordered
  unfold span
  omega

theorem Sample.checked_ok_iff (entity : String) (count total : Nat) (k : Keystream) :
    (∃ numbers, (checked entity count total k).1 = .ok numbers) ↔ 1 ≤ count ∧ count ≤ total := by
  unfold checked
  refine Iff.trans (ok_behind_guard Prod.fst rfl) (and_congr Nat.not_lt ?_)
  refine Iff.trans (ok_behind_guard Prod.fst rfl) ((and_iff_left ?_).trans Nat.not_lt)
  exact ⟨_, rfl⟩

theorem Metric.first_ok_iff (count : Nat) :
    (∃ metrics, first count = .ok metrics) ↔ 1 ≤ count ∧ count ≤ all.length := by
  unfold first
  refine Iff.trans (ok_behind_guard id rfl) (and_congr Nat.one_le_iff_ne_zero.symm ?_)
  refine Iff.trans (ok_behind_guard id rfl) ((and_iff_left ?_).trans Nat.not_lt)
  exact ⟨_, rfl⟩

namespace Workload

/-- The range of time and the number of hosts alone decide whether drawing succeeds. -/
def DecidedBy {α : Type} (m : Drawing α) (can : Interval → Nat → Prop) : Prop :=
  ∀ fleet, (∃ a, (m fleet).1 = .ok a) ↔ can fleet.interval fleet.population.scale

section Decided
variable {α β : Type} {can more : Interval → Nat → Prop}

theorem decided_pure (a : α) : DecidedBy (pure a) fun _ _ => True :=
  fun _ => iff_of_true ⟨a, rfl⟩ trivial

/-- Since the first part leaves the fleet as it is but for its stream, the second is decided by the
same range and hosts. -/
theorem decided_bind {m : Drawing α} {f : α → Drawing β} (first : DecidedBy m can)
    (steady : Steady m) (second : ∀ a, DecidedBy (f a) more) :
    DecidedBy (m >>= f) fun range scale => can range scale ∧ more range scale := by
  intro fleet
  have begins := first fleet
  obtain ⟨range, scale⟩ := steady fleet
  rw [bind_apply]
  cases drawn : m fleet with
  | mk result between =>
    rw [drawn] at begins range scale
    cases result with
    | ok a =>
      have ends := second a between
      rw [range, scale] at ends
      exact ends.trans (and_iff_right (begins.mp ⟨a, rfl⟩)).symm
    | error e =>
      apply iff_of_false
      · rintro ⟨b, done⟩
        cases done
      · rintro ⟨enough, -⟩
        obtain ⟨a, given⟩ := begins.mpr enough
        cases given

theorem decided_congr {m : Drawing α} (decided : DecidedBy m can)
    (same : ∀ range scale, can range scale ↔ more range scale) : DecidedBy m more :=
  fun fleet => (decided fleet).trans (same _ _)

end Decided

theorem map_ok_iff {ε α β : Type} (f : α → β) (result : Except ε α) :
    (∃ b, result.map f = .ok b) ↔ ∃ a, result = .ok a := by
  cases result with
  | ok a => exact iff_of_true ⟨f a, rfl⟩ ⟨a, rfl⟩
  | error e =>
    constructor
    · rintro ⟨a, mapped⟩
      cases mapped
    · rintro ⟨a, given⟩
      cases given

theorem mapError_ok_iff {ε δ α : Type} (f : ε → δ) (result : Except ε α) :
    (∃ a, result.mapError f = .ok a) ↔ ∃ a, result = .ok a := by
  constructor
  · rintro ⟨a, mapped⟩
    exact ⟨a, mapError_ok mapped⟩
  · rintro ⟨a, rfl⟩
    exact ⟨a, rfl⟩

theorem decided_window (length : Duration) :
    DecidedBy (drawWindow length) fun range _ => length.nanos ≤ range.span :=
  fun _ => (mapError_ok_iff _ _).trans (Interval.randomWindow_ok_iff _ _ _)

theorem decided_hosts (count : Nat) :
    DecidedBy (drawHosts count) fun _ scale => 1 ≤ count ∧ count ≤ scale :=
  fun _ => (mapError_ok_iff _ _).trans ((map_ok_iff _ _).trans (Sample.checked_ok_iff _ _ _ _))

theorem decided_metrics (count : Nat) :
    DecidedBy (metrics count) fun _ _ => 1 ≤ count ∧ count ≤ Metric.all.length :=
  fun _ => (mapError_ok_iff _ _).trans (Metric.first_ok_iff count)

end Workload

def Kind.window? : Kind → Option Duration
  | .singleGroupby _ _ hours => some (.ofHours hours)
  | .maxAll _ => some maxAllWindow
  | .doubleGroupby _ => some doubleGroupbyWindow
  | .highCpu _ => some highCpuWindow
  | .lastPoint => none
  | .orderByLimit => some orderByLimitWindow

/-- The windows of a kind are no longer than the range, and there are as many hosts as it takes. -/
def Kind.Fits (kind : Kind) (range : Interval) (scale : Nat) : Prop :=
  (∀ length, kind.window? = some length → length.nanos ≤ range.span) ∧ kind.hosts ≤ scale

def Kind.Proper : Kind → Prop
  | .singleGroupby metrics hosts _ => (1 ≤ metrics ∧ metrics ≤ Metric.all.length) ∧ 1 ≤ hosts
  | .maxAll hosts => 1 ≤ hosts
  | .doubleGroupby metrics => 1 ≤ metrics ∧ metrics ≤ Metric.all.length
  | .highCpu _ | .lastPoint | .orderByLimit => True

instance : (kind : Kind) → Decidable kind.Proper
  | .singleGroupby metrics hosts _ =>
      inferInstanceAs (Decidable ((1 ≤ metrics ∧ metrics ≤ Metric.all.length) ∧ 1 ≤ hosts))
  | .maxAll hosts => inferInstanceAs (Decidable (1 ≤ hosts))
  | .doubleGroupby metrics =>
      inferInstanceAs (Decidable (1 ≤ metrics ∧ metrics ≤ Metric.all.length))
  | .highCpu _ | .lastPoint | .orderByLimit => inferInstanceAs (Decidable True)

theorem Kind.listed_proper {kind : Kind} (listed : kind.Listed) : kind.Proper :=
  (show ∀ k ∈ registry.map Prod.snd, k.Proper by decide) kind listed

theorem Kind.fits_window {kind : Kind} {length : Duration} (looks : kind.window? = some length)
    (range : Interval) (scale : Nat) :
    kind.Fits range scale ↔ length.nanos ≤ range.span ∧ kind.hosts ≤ scale := by
  simp [Fits, looks]

theorem Timescale.draw_decided {kind : Kind} (proper : kind.Proper) :
    DecidedBy (draw kind) kind.Fits := by
  cases kind with
  | singleGroupby count hosts hours =>
    obtain ⟨some_, hosted⟩ := proper
    -- a listed kind has a lawful number of metrics and asks for some host, which leaves the window
    -- and the number of hosts to decide
    refine decided_congr (decided_bind (decided_window _) (steady_window _) fun _ =>
      decided_bind (decided_metrics _) (steady_metrics _) fun _ =>
        decided_bind (decided_hosts _) (steady_hosts _) fun _ => decided_pure _) ?_
    intro range scale
    rw [Kind.fits_window rfl]
    simp [some_, hosted, Kind.hosts]
  | maxAll hosts =>
    refine decided_congr (decided_bind (decided_window _) (steady_window _) fun _ =>
      decided_bind (decided_hosts _) (steady_hosts _) fun _ => decided_pure _) ?_
    intro range scale
    rw [Kind.fits_window rfl]
    simp [show 1 ≤ hosts from proper, Kind.hosts]
  | doubleGroupby count =>
    refine decided_congr (decided_bind (decided_metrics _) (steady_metrics _) fun _ =>
      decided_bind (decided_window _) (steady_window _) fun _ => decided_pure _) ?_
    intro range scale
    rw [Kind.fits_window rfl]
    simp [show 1 ≤ count ∧ count ≤ Metric.all.length from proper, Kind.hosts]
  | highCpu hosts =>
    have names : DecidedBy (if hosts = 0 then pure [] else drawHosts hosts)
        fun _ scale => hosts ≤ scale := by
      by_cases all : hosts = 0
      · rw [if_pos all]
        exact decided_congr (decided_pure _) (by simp [all])
      · rw [if_neg all]
        exact decided_congr (decided_hosts _) fun _ _ => and_iff_right (Nat.pos_of_ne_zero all)
    rw [draw_highCpu]
    refine decided_congr (decided_bind (decided_window _) (steady_window _) fun _ =>
      decided_bind names (steady_someHosts hosts) fun _ => decided_pure _) ?_
    intro range scale
    rw [Kind.fits_window rfl]
    simp [Kind.hosts]
  | lastPoint =>
    refine decided_congr (decided_pure _) ?_
    intro range scale
    simp [Kind.Fits, Kind.window?, Kind.hosts]
  | orderByLimit =>
    refine decided_congr (decided_bind (decided_window _) (steady_window _) fun _ =>
      decided_pure _) ?_
    intro range scale
    rw [Kind.fits_window rfl]
    simp [Kind.hosts]

theorem Kind.label_nonempty (kind : Kind) {title : String} (titled : title ≠ "") :
    kind.label title ≠ "" := by
  obtain ⟨rest, labels⟩ := kind.label_title
  rw [labels]
  intro empty
  exact titled (String.append_eq_empty_iff.mp empty).1

namespace Generate

section Served
variable {d : Database} {kind : Kind} (served : Served d kind)
include served

theorem generate_decided (q : Query) : DecidedBy (d.generate kind q) kind.Fits := by
  obtain ⟨⟨format, useTimeBucket, rfl⟩, supported, listed⟩ := served
  rw [Database.generate, if_pos supported, Format.database_draw format useTimeBucket supported]
  refine decided_congr (decided_bind (Timescale.draw_decided (Kind.listed_proper listed))
    (Timescale.draw_steady kind) fun _ => decided_pure _) ?_
  simp

theorem generate_steady (q : Query) : Steady (d.generate kind q) := by
  obtain ⟨⟨format, useTimeBucket, rfl⟩, supported, -⟩ := served
  rw [Database.generate, if_pos supported, Format.database_draw format useTimeBucket supported]
  exact steady_bind (Timescale.draw_steady kind) fun _ => steady_pure _

theorem generate_labelled {q filled : Query} {before after : Fleet}
    (done : d.generate kind q before = (.ok filled, after)) : filled.label ≠ "" := by
  obtain ⟨⟨format, useTimeBucket, rfl⟩, supported, -⟩ := served
  obtain ⟨request, -, rfl⟩ := Database.generate_ok supported done
  cases format with
  | timescale => exact kind.label_nonempty (by decide)
  | siri => exact kind.label_nonempty (by decide)

theorem workload_drawn {fleet : Fleet} (fits : kind.Fits fleet.interval fleet.population.scale)
    (count index : Nat) (q : Query) :
    ∃ qs, workload d kind count index q fleet = .ok qs ∧ qs.length = count := by
  induction count generalizing index q fleet with
  | zero => exact ⟨[], rfl, rfl⟩
  | succ count ih =>
    obtain ⟨query, given⟩ := (generate_decided served q.cleared fleet).mpr fits
    obtain ⟨range, scale⟩ := generate_steady served q.cleared fleet
    cases generated : d.generate kind q.cleared fleet with
    | mk result after =>
      rw [generated] at given range scale
      cases given
      -- the fleet behind a query fits as the one before it did
      rw [← range, ← scale] at fits
      obtain ⟨qs, drawn, length⟩ := ih fits (index + 1) query
      refine ⟨query :: qs, ?_, congrArg (· + 1) length⟩
      rw [workload, generated]
      simp only [if_neg (generate_labelled served generated), drawn]
      rfl

theorem steps_unfit (id groups : Nat) {p : Progress}
    (unfit : ¬ kind.Fits p.fleet.interval p.fleet.population.scale) (count index : Nat) :
    ∃ e fleet, steps d kind id groups (count + 1) index p = (.error e, { p with fleet }) := by
  cases generated : d.generate kind p.query.cleared p.fleet with
  | mk result fleet =>
    cases result with
    | ok query =>
      refine absurd ((generate_decided served p.query.cleared p.fleet).mp ⟨query, ?_⟩) unfit
      rw [generated]
    | error e => exact ⟨.workload e, fleet, by simp only [steps, step, generated]⟩

/-- A kind that fits, or that nothing is drawn of, leads to the share of so many queries. -/
theorem write_fitting (id groups : Nat) {queries : Nat} {fleet : Fleet}
    (scaled : fleet.population.scale < UInt64.size)
    (fitting : queries = 0 ∨ kind.Fits fleet.interval fleet.population.scale) :
    ∃ qs sink, qs.length = queries ∧ (∀ q ∈ qs, (Codec.encode q).length ≤ Stream.maxPayload) ∧
      write d kind fleet queries id groups {} =
        (.ok (({} : Summary).addAll (share id groups qs)), sink) ∧
      sink.accepted.toList = Stream.encoded (share id groups qs) := by
  obtain ⟨qs, drawn, length⟩ : ∃ qs, workload d kind queries 0 d.emptyQuery fleet = .ok qs ∧
      qs.length = queries := by
    rcases fitting with rfl | fits
    · exact ⟨[], rfl, rfl⟩
    · exact workload_drawn served fits queries 0 d.emptyQuery
  have wrote := write_workload served id groups queries scaled
  simp only [drawn] at wrote
  obtain ⟨sink, ran, bytes⟩ := wrote
  exact ⟨qs, sink, length, workload_fits served scaled drawn, ran, bytes⟩

theorem write_unfit (id groups : Nat) {queries : Nat} (asked : queries ≠ 0) {fleet : Fleet}
    (unfit : ¬ kind.Fits fleet.interval fleet.population.scale) :
    ∃ e sink, write d kind fleet queries id groups {} = (.error e, sink) ∧
      sink.accepted.toList = Stream.identifier := by
  obtain ⟨count, rfl⟩ := Nat.exists_eq_succ_of_ne_zero asked
  obtain ⟨e, after, stopped⟩ := steps_unfit served id groups
    (p := ⟨fleet, d.emptyQuery, Stream.Writer.begun, {}⟩) unfit count 0
  refine ⟨e, Stream.Writer.begun.sink, ?_, ?_⟩
  · rw [write, if_pos served.supported, Stream.Writer.start_unlimited]
    simp only [stopped]
  · simp [Stream.Writer.begun, Stream.Writer.took]

end Served

/-- What has to be known of a configuration for its workload to be written. -/
structure Feasible (c : Config) : Prop where
  grouped : 0 < c.groups
  numbered : c.groupId < c.groups
  starts : -0x8000000000000000 ≤ c.start.toNanos ∧ c.start.toNanos < 0x8000000000000000
  finishes : -0x8000000000000000 ≤ c.finish.toNanos ∧ c.finish.toNanos < 0x8000000000000000
  ordered : c.start.toNanos ≤ c.finish.toNanos
  drawable : ∃ kind, (c.kindTag, kind) ∈ Kind.registry ∧
    (c.format.database c.useTimeBucket).supports kind = true ∧
    (c.queries = 0 ∨
      (∀ length, kind.window? = some length →
        (length.nanos : Int) ≤ c.finish.toNanos - c.start.toNanos) ∧ kind.hosts ≤ c.scale)

theorem feasible_iff (c : Config) :
    Feasible c ↔ ∃ kind fleet, prepare c = .ok (kind, fleet) ∧
      (c.format.database c.useTimeBucket).supports kind = true ∧
      (c.queries = 0 ∨ kind.Fits fleet.interval fleet.population.scale) := by
  constructor
  · rintro ⟨-, numbered, starts, finishes, ordered, kind, member, supported, fitting⟩
    let range : Interval :=
      ⟨c.start.toNanos, c.finish.toNanos, ordered, starts.1, finishes.2⟩
    refine ⟨kind, ⟨range, .ofSeed c.scale c.seed⟩,
      prepare_eq_ok.mpr ⟨numbered, member, rfl, rfl, rfl⟩, supported, ?_⟩
    simp only [Kind.Fits, Interval.le_span_iff]
    exact fitting
  · rintro ⟨kind, fleet, ready, supported, fitting⟩
    obtain ⟨numbered, member, first, last, population⟩ := prepare_eq_ok.mp ready
    have scale : fleet.population.scale = c.scale := by
      rw [population]
      rfl
    simp only [Kind.Fits, Interval.le_span_iff, first, last, scale] at fitting
    have ordered := fleet.interval.ordered
    have lower := fleet.interval.lower
    have upper := fleet.interval.upper
    rw [first] at ordered lower
    rw [last] at ordered upper
    exact ⟨by omega, numbered, ⟨lower, by omega⟩, ⟨by omega, upper⟩, ordered,
      kind, member, supported, fitting⟩

theorem run_feasible {c : Config} (scaled : c.scale < UInt64.size) (feasible : Feasible c) :
    ∃ (qs : List Query) (s : Summary), qs.length = c.queries ∧
      (run c {}).1 = .ok s ∧ Writes c (share c.groupId c.groups qs) s := by
  obtain ⟨kind, fleet, ready, supported, fitting⟩ := (feasible_iff c).mp feasible
  obtain ⟨-, member, -, -, population⟩ := prepare_eq_ok.mp ready
  have scaled : fleet.population.scale < UInt64.size := by
    rw [population]
    exact scaled
  have served : Served (c.format.database c.useTimeBucket) kind :=
    ⟨⟨c.format, c.useTimeBucket, rfl⟩, supported, List.mem_map_of_mem member⟩
  obtain ⟨qs, sink, length, fits, wrote, bytes⟩ :=
    write_fitting served c.groupId c.groups scaled fitting
  have ran : run c {} = (.ok (({} : Summary).addAll (share c.groupId c.groups qs)), sink) := by
    rw [run, ready]
    exact wrote
  exact ⟨qs, _, length, congrArg Prod.fst ran,
    writes_addAll (fun q ours => fits q (mem_share ours)) ran bytes⟩

theorem run_infeasible {c : Config} (infeasible : ¬ Feasible c) :
    ∃ e sink, run c {} = (.error e, sink) ∧
      (sink.accepted.toList = [] ∨ sink.accepted.toList = Stream.identifier) := by
  rw [feasible_iff] at infeasible
  cases ready : prepare c with
  | error e =>
    exact ⟨e, {}, by rw [run, ready], .inl rfl⟩
  | ok start =>
    obtain ⟨kind, fleet⟩ := start
    obtain ⟨-, member, -⟩ := prepare_eq_ok.mp ready
    have ran : run c {} = write (c.format.database c.useTimeBucket) kind fleet c.queries c.groupId
        c.groups {} := by
      rw [run, ready]
    rw [ran]
    by_cases supported : (c.format.database c.useTimeBucket).supports kind = true
    · have served : Served (c.format.database c.useTimeBucket) kind :=
        ⟨⟨c.format, c.useTimeBucket, rfl⟩, supported, List.mem_map_of_mem member⟩
      have unfitting : ¬ (c.queries = 0 ∨ kind.Fits fleet.interval fleet.population.scale) :=
        fun fitting => infeasible ⟨kind, fleet, ready, supported, fitting⟩
      obtain ⟨asked, unfit⟩ := not_or.mp unfitting
      obtain ⟨e, sink, failed, bytes⟩ := write_unfit served c.groupId c.groups asked unfit
      exact ⟨e, sink, failed, .inr bytes⟩
    · exact ⟨_, {}, by rw [write, if_neg supported], .inl rfl⟩

/-- Whether a workload is written depends neither on its seed nor on how many queries it has, unless
it has none. A process that fails has written no frame, and the others write their whole share. -/
theorem feasible_workloads_are_written (c : Config) (scaled : c.scale < UInt64.size) :
    ((∃ s, (run c {}).1 = .ok s) ↔ Feasible c) ∧
    (∀ e, (run c {}).1 = .error e →
      (run c {}).2.accepted.toList = [] ∨ (run c {}).2.accepted.toList = Stream.identifier) ∧
    ∀ s, (run c {}).1 = .ok s →
      ∃ qs : List Query, qs.length = c.queries ∧ Writes c (share c.groupId c.groups qs) s := by
  by_cases feasible : Feasible c
  · obtain ⟨qs, s, length, ran, wrote⟩ := run_feasible scaled feasible
    refine ⟨iff_of_true ⟨s, ran⟩ feasible, ?_, ?_⟩
    · intro e failed
      rw [ran] at failed
      cases failed
    · intro s' ran'
      rw [ran] at ran'
      cases ran'
      exact ⟨qs, length, wrote⟩
  · obtain ⟨e, sink, failed, bytes⟩ := run_infeasible feasible
    rw [failed]
    refine ⟨iff_of_false (by simp) feasible, fun _ _ => bytes, ?_⟩
    intro s ran
    cases ran

def tight : Config where
  format := .timescale
  kindTag := "cpu-max-all-8"
  scale := 8
  seed := 7
  start := ⟨0, 0⟩
  finish := ⟨28800, 0⟩
  queries := 3
  groupId := 1
  groups := 2
  useTimeBucket := false

theorem tight_is_written :
    (tight.scale < UInt64.size ∧ Feasible tight) ∧
      ∃ s, (run tight {}).1 = .ok s ∧
        ∃ qs : List Query, qs.length = 3 ∧ Writes tight (share 1 2 qs) s := by
  have scaled : tight.scale < UInt64.size := by decide
  have drawable : (∀ length, (Kind.maxAll 8).window? = some length →
      (length.nanos : Int) ≤ tight.finish.toNanos - tight.start.toNanos) ∧
        (Kind.maxAll 8).hosts ≤ tight.scale := by
    refine ⟨?_, by decide⟩
    intro length looks
    cases looks
    decide
  have feasible : Feasible tight := ⟨by decide, by decide, by decide, by decide, by decide,
    .maxAll 8, by decide, rfl, .inr drawable⟩
  obtain ⟨written, -, whole⟩ := feasible_workloads_are_written tight scaled
  obtain ⟨s, ran⟩ := written.mpr feasible
  exact ⟨⟨scaled, feasible⟩, s, ran, whole s ran⟩

end Generate

end QueryBench
