import QueryBench.Proofs.Labels
import QueryBench.Proofs.Requests
import QueryBench.Proofs.ScanAhead

/- A workload that is written and then replayed. Both ends count by label, the generator the
   queries that it writes and the collector the values that come back for them; they agree. -/
namespace QueryBench
open Latency

theorem Kind.label_plain (kind : Kind) (format : Format) : Plain (kind.label format.title) := by
  obtain ⟨rest, spelled⟩ := kind.label_title
  have opening : (kind.label format.title).toList.head? = format.title.toList.head? := by
    rw [spelled, String.toList_append, List.head?_append]
    cases format with
    | timescale => rfl
    | siri => rfl
  have apart : ∀ name : String, name.toList.head? ≠ format.title.toList.head? →
      kind.label format.title ≠ name := by
    rintro name other rfl
    exact other opening
  refine ⟨apart _ ?_, apart _ ?_, apart _ ?_⟩ <;> cases format <;> decide

namespace Generate

def portion (c : Config) : List Query :=
  match prepare c with
  | .error _ => []
  | .ok (kind, fleet) =>
      let d := c.format.database c.useTimeBucket
      share c.groupId c.groups ((workload d kind c.queries 0 d.emptyQuery fleet).toOption.getD [])

theorem run_portion {c : Config} {sink after : Sink} {written : Summary}
    (ran : run c sink = (.ok written, after)) :
    (∃ kind : Kind, ∀ q ∈ portion c, q.label = kind.label c.format.title) ∧
      (∀ q ∈ portion c, (Codec.encode q).length ≤ Stream.maxPayload) ∧
      after.accepted.toList = sink.accepted.toList ++ Stream.encoded (portion c) ∧
      written = ({} : Summary).addAll (portion c) := by
  rw [run] at ran
  cases ready : prepare c with
  | error e =>
    rw [ready] at ran
    cases ran
  | ok prepared =>
    obtain ⟨kind, fleet⟩ := prepared
    rw [ready] at ran
    obtain ⟨supported, qs, drawn, fits, bytes, counted⟩ := write_sent ran
    have ours : portion c = share c.groupId c.groups qs := by
      simp only [portion, ready, drawn, Except.toOption, Option.getD_some]
    rw [ours]
    refine ⟨⟨kind, ?_⟩, fits, bytes, counted⟩
    intro q member
    obtain ⟨numbers, window, -, spelled⟩ := workload_suits supported drawn q (mem_share member)
    exact spelled.label

end Generate

namespace Run

/-- The summary of a run counts what that of a generation does, and has no groups besides. -/
structure Replayed (c : Config) (written : Generate.Summary) (r : RunSummary) : Prop where
  queries : r.queries = written.written
  labels : ∀ label n, (label, n) ∈ written.byLabel →
    ∃ g, Table.find? label r.groups = some g ∧ g.count = n * if c.prewarm then 2 else 1
  named : ∀ label g, (label, g) ∈ r.groups → label ∈ written.byLabel.map Prod.fst ∨
    label = allQueries ∨ c.prewarm = true ∧ (label = coldQueries ∨ label = warmQueries)
  all : r.held allQueries = Table.weigh (fun e => r.held e.1) written.byLabel
  calls : c.prewarm = true →
    r.held coldQueries = written.written ∧ r.held warmQueries = written.written

theorem held_found {r : RunSummary} {label : String} {n : Nat} (held : r.held label = n)
    (some_ : 0 < n) : ∃ g, Table.find? label r.groups = some g ∧ g.count = n := by
  cases found : Table.find? label r.groups with
  | none =>
    rw [RunSummary.held, found] at held
    subst held
    cases some_
  | some g =>
    rw [RunSummary.held, found] at held
    exact ⟨g, rfl, held⟩

theorem perQuery_positive (s : Settings) : 0 < s.perQuery := by
  unfold Settings.perQuery
  split <;> decide

section OneLabel
variable {c : Config} {qs : List Query} {label : String} (plain : Plain label)
  (labelled : ∀ q ∈ qs, q.label = label) {r : RunSummary} (covers : r.Covers c.toSettings qs)
include plain labelled covers

theorem one_label_held : r.held label = qs.length * c.perQuery := by
  have every : qs.countP (·.label = label) = qs.length :=
    List.countP_eq_length.mpr fun q member => decide_eq_true (labelled q member)
  rw [covers.labels label plain, every]

/-- Where all queries have one label, its group is all that the summaries have to agree on. -/
theorem one_label_replayed (unburned : c.burnIn = 0)
    (tallies : r.Tallies c.toSettings qs.length) :
    Replayed c (({} : Generate.Summary).addAll qs) r := by
  have counted : (({} : Generate.Summary).addAll qs).written = qs.length :=
    (Generate.Summary.addAll_written {} qs).trans (Nat.zero_add _)
  have byLabel := Generate.addAll_one_label labelled
  have held := one_label_held plain labelled covers
  obtain ⟨queries, -, all, cold, warm⟩ := tallies
  rw [unburned, Nat.zero_min, Nat.sub_zero] at all cold warm
  have calls : c.prewarm = true → r.held coldQueries = (({} : Generate.Summary).addAll qs).written ∧
      r.held warmQueries = (({} : Generate.Summary).addAll qs).written := by
    intro twice
    rw [counted]
    exact ⟨cold twice, warm twice⟩
  by_cases empty : qs = []
  · -- nothing was written, so there is no label and no group of one
    subst empty
    refine ⟨queries, by simp [byLabel], ?_, ?_, calls⟩
    · intro other g member
      rcases covers.named other g member with ⟨q, nowhere, -⟩ | reserved
      · cases nowhere
      · exact .inr reserved
    · rw [all, byLabel]
      exact Nat.zero_mul _
  · rw [if_neg empty] at byLabel
    refine ⟨queries.trans counted.symm, ?_, ?_, ?_, calls⟩
    · intro other n member
      rw [byLabel] at member
      cases List.mem_singleton.mp member
      have some_ : 0 < qs.length * c.perQuery :=
        Nat.mul_pos (List.length_pos_iff.mpr empty) (perQuery_positive _)
      exact held_found held some_
    · intro other g member
      rcases covers.named other g member with ⟨q, inside, rfl⟩ | reserved
      · rw [byLabel, labelled q inside]
        exact .inl List.mem_cons_self
      · exact .inr reserved
    · rw [all, byLabel, ← held]
      rfl

end OneLabel

/-- What a generation has written is what a run of it counts: with any number of workers, queries
handed out by key or not, and calls in whatever order, the summary of a run that ends well has a
group for each label that was written, with a value for each call of its queries, and otherwise only
the groups of the collector itself. -/
theorem generated_queries_are_counted (g : Generate.Config) (sink after : Sink)
    (written : Generate.Summary) (ran : Generate.run g sink = (.ok written, after)) (c : Config)
    (accepted : c.check = .ok ()) (unlimited : c.limit = 0) (unburned : c.burnIn = 0)
    (x : Executor) (dutiful : x.Dutiful) (input : Source) (clean : input.failure? = none)
    (content : sink.accepted.toList ++ Source.content input.deliveries = after.accepted.toList)
    (interim summary : Sink) (directory : Directory) :
    ∃ s₀, State.start c input interim summary directory = .ok s₀ ∧
      ∀ s r, s₀.Reached c x s → s.result = some (.ok r) → Replayed c written r := by
  obtain ⟨⟨kind, labelled⟩, fits, bytes, rfl⟩ := Generate.run_portion ran
  have plain : ∀ q ∈ Generate.portion g, Plain q.label := by
    intro q member
    rw [labelled q member]
    exact kind.label_plain g.format
  have positive := check_workers accepted
  have holds : input.Holds (Stream.encoded (Generate.portion g)) :=
    ⟨clean, List.append_cancel_left (content.trans bytes)⟩
  obtain ⟨s₀, started, books⟩ := State.start_accounted positive holds (Stream.framed_encoded fits)
    interim summary directory
  refine ⟨s₀, started, ?_⟩
  intro s r reached done
  obtain ⟨tallies, covers⟩ :=
    State.completed_covers unburned positive dutiful plain started books reached done
  have whole : quota c.limit (Generate.portion g).length = (Generate.portion g).length :=
    if_pos unlimited
  rw [whole, List.take_length] at covers
  rw [whole] at tallies
  exact one_label_replayed (kind.label_plain g.format) labelled covers unburned tallies

def twice : Config := { workers := 2, prewarm := true, percentiles := [] }

theorem lone_queries_are_counted :
    ∃ written after, Generate.run Generate.lone {} = (.ok written, after) ∧ written.written = 2 ∧
      (twice.check = .ok () ∧ twice.limit = 0 ∧ twice.burnIn = 0 ∧
        (Executor.noop none 0 false).Dutiful ∧
        (Source.ofBytes after.accepted.toList).failure? = none ∧
        ({} : Sink).accepted.toList ++
          Source.content (Source.ofBytes after.accepted.toList).deliveries =
            after.accepted.toList) ∧
      ∃ s₀ s r, State.start twice (.ofBytes after.accepted.toList) {} {} {} = .ok s₀ ∧
        s₀.Reached twice (.noop none 0 false) s ∧ s.result = some (.ok r) ∧
        Replayed twice written r := by
  have counted : (Generate.run Generate.lone {}).1.toOption.map (·.written) = some 2 := by
    decide +kernel
  have two : (Generate.portion Generate.lone).length = 2 := by decide +kernel
  -- once everything is scanned, no checksum has to be computed any more
  have ended : (((State.untouched twice {} {} {}).scanning (.finished 2)
      (numbered 2 (Generate.portion Generate.lone))).go twice (.noop none 0 false) 60).ended =
        true := by decide +kernel
  cases ran : Generate.run Generate.lone {} with
  | mk result after =>
    rw [ran] at counted
    cases result with
    | error e => cases counted
    | ok written =>
      have holds := Source.ofBytes_holds after.accepted.toList
      have dutiful := noop_dutiful none 0 false
      obtain ⟨s₀, started, agree⟩ := generated_queries_are_counted Generate.lone {} after written
        ran twice rfl rfl rfl _ dutiful _ holds.clean holds.content {} {} {}
      obtain ⟨-, fits, bytes, -⟩ := Generate.run_portion ran
      have room : quota twice.limit (Generate.portion Generate.lone).length ≤ twice.workers := by
        rw [two]
        decide
      obtain ⟨s₁, started', scanned⟩ := State.start_finished (.noop none 0 false)
        (check_workers rfl) rfl ⟨holds.clean, holds.content.trans (bytes.trans (List.nil_append _))⟩
        (Stream.framed_encoded fits) room {} {} {}
      cases started.symm.trans started'
      rw [two] at scanned
      obtain ⟨r, done⟩ := State.ended_result ended
      have reached := State.go_reached scanned 60
      exact ⟨written, after, rfl, Option.some.inj counted,
        ⟨rfl, rfl, rfl, dutiful, holds.clean, holds.content⟩, s₀, _, r, started, reached, done,
        agree _ r reached done⟩

end Run

end QueryBench
