import Mathlib.Algebra.BigOperators.Group.Finset.Piecewise
import QueryBench.Proofs.FrameSize
import QueryBench.Proofs.Stream
import QueryBench.Proofs.Table
import QueryBench.Workload.Generate

/- Several processes that share a workload. Each of them draws all of its queries from equal fleets,
   so what a process writes is the share of one list of queries that falls to it. -/
namespace QueryBench

theorem Interval.ofMoments_eq_ok {start finish : Moment} {range : Interval} :
    ofMoments start finish = .ok range ↔
      range.start = start.toNanos ∧ range.finish = finish.toNanos := by
  constructor
  · intro made
    simp only [ofMoments] at made
    split at made
    · split at made
      · split at made
        · cases made
          exact ⟨rfl, rfl⟩
        · cases made
      · cases made
    · cases made
  · rintro ⟨first, last⟩
    obtain ⟨a, b, ordered, lower, upper⟩ := range
    simp only at first last
    subst first last
    have inside : -0x8000000000000000 ≤ start.toNanos ∧ start.toNanos < 0x8000000000000000 :=
      ⟨lower, Int.lt_of_le_of_lt ordered upper⟩
    have inside' : -0x8000000000000000 ≤ finish.toNanos ∧ finish.toNanos < 0x8000000000000000 :=
      ⟨Int.le_trans lower ordered, upper⟩
    simp only [ofMoments, dif_pos inside, dif_pos inside', dif_pos ordered]

theorem Workload.kindOfTag_eq_ok {tag : String} {kind : Kind} :
    kindOfTag tag = .ok kind ↔ (tag, kind) ∈ Kind.registry := by
  have once : ∀ e ∈ Kind.registry, Kind.registry.lookup e.1 = some e.2 := by decide
  constructor
  · intro known
    unfold kindOfTag at known
    split at known
    · rename_i found
      cases known
      obtain ⟨front, back, split, -⟩ := List.lookup_eq_some_iff.mp found
      rw [split]
      simp
    · cases known
  · intro member
    have found : Kind.ofTag? tag = some kind := once _ member
    rw [kindOfTag, found]

namespace Generate

/-- The elements whose index leaves the rest `id`, counted from `first` on. -/
def shareFrom {α : Type} (id groups first : Nat) (xs : List α) : List α :=
  ((xs.zipIdx first).filter fun x => x.2 % groups = id).map Prod.fst

def share {α : Type} (id groups : Nat) (xs : List α) : List α := shareFrom id groups 0 xs

theorem shareFrom_cons {α : Type} (id groups first : Nat) (x : α) (xs : List α) :
    shareFrom id groups first (x :: xs) =
      if first % groups = id then x :: shareFrom id groups (first + 1) xs
      else shareFrom id groups (first + 1) xs := by
  by_cases ours : first % groups = id
  · simp [shareFrom, ours]
  · simp [shareFrom, ours]

theorem mem_share {α : Type} {id groups : Nat} {xs : List α} {x : α}
    (member : x ∈ share id groups xs) : x ∈ xs := by
  obtain ⟨⟨y, i⟩, inside, rfl⟩ := List.mem_map.mp member
  exact List.fst_mem_of_mem_zipIdx (List.mem_filter.mp inside).1

theorem share_whole {α : Type} (xs : List α) : share 0 1 xs = xs := by
  have all : xs.zipIdx.filter (fun x => x.2 % 1 = 0) = xs.zipIdx :=
    List.filter_eq_self.mpr fun x _ => by simp [Nat.mod_one]
  rw [share, shareFrom, all, List.zipIdx_map_fst]

theorem countP_shares {α : Type} (p : α → Bool) {groups : Nat} (positive : 0 < groups) (first : Nat)
    (xs : List α) :
    ∑ id ∈ Finset.range groups, (shareFrom id groups first xs).countP p = xs.countP p := by
  induction xs generalizing first with
  | nil => simp [shareFrom]
  | cons x xs ih =>
    have counted : ∀ id, (shareFrom id groups first (x :: xs)).countP p =
        (shareFrom id groups (first + 1) xs).countP p +
          if first % groups = id then (if p x then 1 else 0) else 0 := by
      intro id
      rw [shareFrom_cons]
      by_cases ours : first % groups = id
      · simp [ours, List.countP_cons]
      · simp [ours]
    have owner : first % groups ∈ Finset.range groups :=
      Finset.mem_range.mpr (Nat.mod_lt first positive)
    simp only [counted, Finset.sum_add_distrib, ih, Finset.sum_ite_eq, if_pos owner,
      List.countP_cons]

namespace Summary

def labelled (s : Summary) (label : String) : Nat := (s.byLabel.find? label).getD 0

def addAll (s : Summary) (qs : List Query) : Summary := qs.foldl (fun s q => s.add q.label) s

theorem addAll_written (s : Summary) (qs : List Query) :
    (s.addAll qs).written = s.written + qs.length := by
  induction qs generalizing s with
  | nil => rfl
  | cons q qs ih =>
    have more := ih (s.add q.label)
    rw [List.length_cons, Nat.add_comm qs.length, ← Nat.add_assoc]
    exact more

theorem add_labelled {s : Summary} (sorted : s.byLabel.Sorted) (added label : String) :
    (s.add added).labelled label = s.labelled label + if added = label then 1 else 0 := by
  rw [labelled, labelled, add, Table.count, Table.find?_alter sorted]
  by_cases same : label = added
  · simp [same]
  · simp [same, Ne.symm same]

theorem addAll_labelled {s : Summary} (sorted : s.byLabel.Sorted) (qs : List Query)
    (label : String) :
    (s.addAll qs).labelled label = s.labelled label + qs.countP (·.label = label) := by
  induction qs generalizing s with
  | nil => rfl
  | cons q qs ih =>
    have more := ih (s := s.add q.label) (Table.sorted_alter sorted _ _)
    rw [add_labelled sorted] at more
    rw [List.countP_cons]
    simp only [addAll, List.foldl_cons, decide_eq_true_eq] at more ⊢
    omega

end Summary

/-- The queries of a workload, whoever writes them, or the first failure to draw one. -/
def workload (d : Database) (kind : Kind) : Nat → Nat → Query → Fleet → Except Error (List Query)
  | 0, _, _, _ => .ok []
  | count + 1, index, q, fleet =>
      match d.generate kind q.cleared fleet with
      | (.error e, _) => .error (.workload e)
      | (.ok query, fleet) =>
          if query.label = "" then .error (.emptyLabel index)
          else (workload d kind count (index + 1) query fleet).map (query :: ·)

/-- A database and a kind from the registry that it supports. -/
structure Served (d : Database) (kind : Kind) : Prop where
  database : ∃ (format : Format) (useTimeBucket : Bool), d = format.database useTimeBucket
  supported : d.supports kind = true
  listed : kind.Listed

section Steps
variable {d : Database} {kind : Kind} (served : Served d kind) (id groups : Nat)
include served

theorem generate_fits {before after : Fleet} {q filled : Query}
    (scaled : before.population.scale < UInt64.size)
    (done : d.generate kind q before = (.ok filled, after)) :
    (Codec.encode filled).length ≤ Stream.maxPayload ∧ after.population.scale < UInt64.size := by
  obtain ⟨⟨format, useTimeBucket, rfl⟩, supported, listed⟩ := served
  exact Format.generate_fits supported listed scaled done

theorem workload_fits {count index : Nat} {q : Query} {fleet : Fleet} {qs : List Query}
    (scaled : fleet.population.scale < UInt64.size)
    (drawn : workload d kind count index q fleet = .ok qs) :
    ∀ p ∈ qs, (Codec.encode p).length ≤ Stream.maxPayload := by
  induction count generalizing index q fleet qs with
  | zero =>
    cases drawn
    simp
  | succ count ih =>
    rw [workload] at drawn
    cases generated : d.generate kind q.cleared fleet with
    | mk result after =>
      rw [generated] at drawn
      cases result with
      | error e => cases drawn
      | ok query =>
        obtain ⟨fits, kept⟩ := generate_fits served scaled generated
        by_cases empty : query.label = ""
        · simp [empty] at drawn
        · simp only [if_neg empty] at drawn
          cases rest : workload d kind count (index + 1) query after with
          | error e =>
            rw [rest] at drawn
            cases drawn
          | ok more =>
            rw [rest] at drawn
            cases drawn
            exact List.forall_mem_cons.mpr ⟨fits, ih kept rest⟩

theorem step_ok {index : Nat} {p : Progress} (free : p.writer.Unlimited)
    (scaled : p.fleet.population.scale < UInt64.size) {query : Query} {fleet : Fleet}
    (generated : d.generate kind p.query.cleared p.fleet = (.ok query, fleet))
    (labelled : query.label ≠ "") :
    step d kind id groups index p = (.ok (),
      if index % groups = id then
        ⟨fleet, query, p.writer.took (Stream.frame (Codec.encode query)) 1,
          p.summary.add query.label⟩
      else ⟨fleet, query, p.writer, p.summary⟩) := by
  have fits := (generate_fits served scaled generated).1
  rw [step, generated]
  by_cases ours : index % groups = id
  · simp only [if_neg labelled, if_pos ours, Stream.Writer.write_unlimited free fits]
  · simp only [if_neg labelled, if_neg ours]

theorem steps_workload (count index : Nat) (p : Progress) (free : p.writer.Unlimited)
    (scaled : p.fleet.population.scale < UInt64.size) :
    match workload d kind count index p.query p.fleet with
    | .error e => (steps d kind id groups count index p).1 = .error e
    | .ok qs =>
        let ours := shareFrom id groups index qs
        ∃ fleet query, steps d kind id groups count index p =
          (.ok (), ⟨fleet, query,
            p.writer.took (ours.flatMap fun q => Stream.frame (Codec.encode q)) ours.length,
            p.summary.addAll ours⟩) := by
  induction count generalizing index p with
  | zero => exact ⟨p.fleet, p.query, by simp [steps, shareFrom, Stream.Writer.took, Summary.addAll]⟩
  | succ count ih =>
    rw [workload, steps]
    cases generated : d.generate kind p.query.cleared p.fleet with
    | mk result fleet =>
      cases result with
      | error e => simp [step, generated]
      | ok query =>
        by_cases empty : query.label = ""
        · simp [step, generated, empty]
        · have kept := (generate_fits served scaled generated).2
          rw [step_ok served id groups free scaled generated empty]
          simp only [if_neg empty]
          by_cases ours : index % groups = id
          · have more := ih (index + 1)
              ⟨fleet, query, p.writer.took (Stream.frame (Codec.encode query)) 1,
                p.summary.add query.label⟩ free kept
            cases rest : workload d kind count (index + 1) query fleet with
            | error e => simpa [ours, rest, Except.map] using more
            | ok qs =>
              simp only [rest] at more
              obtain ⟨last, final, ran⟩ := more
              refine ⟨last, final, ?_⟩
              simp [ours, ran, shareFrom_cons, Stream.Writer.took_took, Summary.addAll,
                Nat.add_comm 1]
          · have more := ih (index + 1) ⟨fleet, query, p.writer, p.summary⟩ free kept
            cases rest : workload d kind count (index + 1) query fleet with
            | error e => simpa [ours, rest, Except.map] using more
            | ok qs =>
              simp only [rest] at more
              obtain ⟨last, final, ran⟩ := more
              exact ⟨last, final, by simp [ours, ran, shareFrom_cons]⟩

theorem write_workload (queries : Nat) {fleet : Fleet}
    (scaled : fleet.population.scale < UInt64.size) :
    match workload d kind queries 0 d.emptyQuery fleet with
    | .error e => (write d kind fleet queries id groups {}).1 = .error e
    | .ok qs => ∃ sink, write d kind fleet queries id groups {} =
        (.ok (({} : Summary).addAll (share id groups qs)), sink) ∧
          sink.accepted.toList = Stream.encoded (share id groups qs) := by
  have ran := steps_workload served id groups queries 0
    ⟨fleet, d.emptyQuery, Stream.Writer.begun, {}⟩ Stream.Writer.begun_unlimited scaled
  rw [write, if_pos served.supported, Stream.Writer.start_unlimited]
  cases drawn : workload d kind queries 0 d.emptyQuery fleet with
  | error e =>
    simp only [drawn] at ran ⊢
    cases stepped : steps d kind id groups queries 0
        ⟨fleet, d.emptyQuery, Stream.Writer.begun, {}⟩ with
    | mk result p =>
      rw [stepped] at ran
      cases ran
      rfl
  | ok qs =>
    simp only [drawn] at ran ⊢
    obtain ⟨last, final, ran⟩ := ran
    rw [ran]
    exact ⟨_, rfl, (Stream.Writer.begun_took _ _).1⟩

end Steps

theorem prepare_group (c : Config) {id groups : Nat} (inside : id < groups) :
    prepare { c with groupId := id, groups } = prepare { c with groupId := 0, groups := 1 } := by
  have ours : ¬ (groups = 0 ∨ groups ≤ id) := by omega
  have whole : ¬ (1 = 0 ∨ 1 ≤ 0) := by decide
  rw [prepare, prepare, if_neg ours, if_neg whole]

theorem prepare_eq_ok {c : Config} {kind : Kind} {fleet : Fleet} :
    prepare c = .ok (kind, fleet) ↔
      c.groupId < c.groups ∧ (c.kindTag, kind) ∈ Kind.registry ∧
        fleet.interval.start = c.start.toNanos ∧ fleet.interval.finish = c.finish.toNanos ∧
        fleet.population = .ofSeed c.scale c.seed := by
  constructor
  · intro ready
    unfold prepare at ready
    split at ready
    · cases ready
    · rename_i grouped
      split at ready
      · cases ready
      · cases ready
      · rename_i known made
        cases ready
        obtain ⟨first, last⟩ := Interval.ofMoments_eq_ok.mp made
        exact ⟨by omega, Workload.kindOfTag_eq_ok.mp known, first, last, rfl⟩
  · rintro ⟨inside, member, first, last, population⟩
    have made : Interval.ofMoments c.start c.finish = .ok fleet.interval :=
      Interval.ofMoments_eq_ok.mpr ⟨first, last⟩
    rw [prepare, if_neg (by omega), Workload.kindOfTag_eq_ok.mpr member, made, ← population]

/-- What all groups of a workload go by: they fail together, or write shares of one list. -/
theorem run_group (c : Config) (scaled : c.scale < UInt64.size) :
    (∃ e, ∀ id groups, id < groups → (run { c with groupId := id, groups } {}).1 = .error e) ∨
    ∃ qs, (∀ q ∈ qs, (Codec.encode q).length ≤ Stream.maxPayload) ∧
      ∀ id groups, id < groups → ∃ sink, run { c with groupId := id, groups } {} =
        (.ok (({} : Summary).addAll (share id groups qs)), sink) ∧
          sink.accepted.toList = Stream.encoded (share id groups qs) := by
  cases ready : prepare { c with groupId := 0, groups := 1 } with
  | error e =>
    refine .inl ⟨e, ?_⟩
    intro id groups inside
    rw [run, prepare_group c inside, ready]
  | ok start =>
    obtain ⟨kind, fleet⟩ := start
    obtain ⟨-, member, -, -, population⟩ := prepare_eq_ok.mp ready
    have listed : kind.Listed := List.mem_map_of_mem member
    have scaled : fleet.population.scale < UInt64.size := by
      rw [population]
      exact scaled
    let d := c.format.database c.useTimeBucket
    have ran : ∀ id groups, id < groups → run { c with groupId := id, groups } {} =
        write d kind fleet c.queries id groups {} := by
      intro id groups inside
      rw [run, prepare_group c inside, ready]
    by_cases supported : d.supports kind = true
    · have served : Served d kind := ⟨⟨c.format, c.useTimeBucket, rfl⟩, supported, listed⟩
      have written := fun id groups => write_workload served id groups c.queries scaled
      cases drawn : workload d kind c.queries 0 d.emptyQuery fleet with
      | error e =>
        simp only [drawn] at written
        refine .inl ⟨e, ?_⟩
        intro id groups inside
        rw [ran id groups inside, written]
      | ok qs =>
        simp only [drawn] at written
        refine .inr ⟨qs, workload_fits served scaled drawn, ?_⟩
        intro id groups inside
        rw [ran id groups inside]
        exact written id groups
    · refine .inl ⟨.workload (.unsupported kind.capability d.tag), ?_⟩
      intro id groups inside
      rw [ran id groups inside, write, if_neg supported]

/-- A configuration leads to a stream of the queries and counts them. -/
def Writes (c : Config) (qs : List Query) (s : Summary) : Prop :=
  ∃ sink, run c {} = (.ok s, sink) ∧ sink.accepted.toList = Stream.encoded qs ∧
    Stream.Carries sink.accepted.toList qs ∧ s.written = qs.length

theorem writes_addAll {c : Config} {qs : List Query} {sink : Sink}
    (fits : ∀ q ∈ qs, (Codec.encode q).length ≤ Stream.maxPayload)
    (ran : run c {} = (.ok (({} : Summary).addAll qs), sink))
    (bytes : sink.accepted.toList = Stream.encoded qs) :
    Writes c qs (({} : Summary).addAll qs) := by
  refine ⟨sink, ran, bytes, ?_, ?_⟩
  · rw [bytes]
    exact Stream.encoded_carries fits
  · rw [Summary.addAll_written]
    exact Nat.zero_add _

/-- Groups partition a workload. Each of them writes the queries whose index leaves its number as
the rest, byte by byte as a single process writes them, and what they count adds up to what that
process counts; where it fails, they all fail with the same error. -/
theorem groups_partition_workload (c : Config) (scaled : c.scale < UInt64.size) (groups : Nat)
    (positive : 0 < groups) :
    (∃ e, (run { c with groupId := 0, groups := 1 } {}).1 = .error e ∧
      ∀ id < groups, (run { c with groupId := id, groups } {}).1 = .error e) ∨
    ∃ (qs : List Query) (whole : Summary) (part : Nat → Summary),
      Writes { c with groupId := 0, groups := 1 } qs whole ∧
      (∀ id < groups, Writes { c with groupId := id, groups } (share id groups qs) (part id)) ∧
      ∀ label, ∑ id ∈ Finset.range groups, (part id).labelled label = whole.labelled label := by
  rcases run_group c scaled with ⟨e, failed⟩ | ⟨qs, fits, wrote⟩
  · exact .inl ⟨e, failed 0 1 Nat.one_pos, fun id inside => failed id groups inside⟩
  · refine .inr ⟨qs, ({} : Summary).addAll qs,
      fun id => ({} : Summary).addAll (share id groups qs), ?_, ?_, ?_⟩
    · obtain ⟨sink, ran, bytes⟩ := wrote 0 1 Nat.one_pos
      rw [share_whole] at ran bytes
      exact writes_addAll fits ran bytes
    · intro id inside
      obtain ⟨sink, ran, bytes⟩ := wrote id groups inside
      exact writes_addAll (fun q member => fits q (mem_share member)) ran bytes
    · intro label
      have counted : ∀ part : List Query,
          (({} : Summary).addAll part).labelled label = part.countP (·.label = label) := by
        intro part
        rw [Summary.addAll_labelled Table.sorted_nil]
        exact Nat.zero_add _
      simp only [counted]
      exact countP_shares _ positive 0 qs

def misnumbered : Config where
  format := .siri
  kindTag := "lastpoint"
  scale := 4
  seed := 7
  start := ⟨0, 0⟩
  finish := ⟨86400, 0⟩
  queries := 3
  groupId := 1
  groups := 1
  useTimeBucket := false

theorem misnumbered_groups_partition :
    (misnumbered.scale < UInt64.size ∧ 0 < 2) ∧
      ((∃ e, (run { misnumbered with groupId := 0, groups := 1 } {}).1 = .error e ∧
        ∀ id < 2, (run { misnumbered with groupId := id, groups := 2 } {}).1 = .error e) ∨
      ∃ (qs : List Query) (whole : Summary) (part : Nat → Summary),
        Writes { misnumbered with groupId := 0, groups := 1 } qs whole ∧
        (∀ id < 2, Writes { misnumbered with groupId := id, groups := 2 } (share id 2 qs)
          (part id)) ∧
        ∀ label, ∑ id ∈ Finset.range 2, (part id).labelled label = whole.labelled label) :=
  ⟨by decide, groups_partition_workload misnumbered (by decide) 2 (by decide)⟩

/-- A single group is not enough: with another number than zero the whole workload is refused, and
its groups are not. -/
theorem lone_group_can_be_misnumbered :
    ¬ ∀ (c : Config) (groups : Nat), c.groups = 1 → 0 < groups →
      ∀ e, (run c {}).1 = .error e →
        ∀ id < groups, (run { c with groupId := id, groups } {}).1 = .error e := by
  intro all
  have refused : (run misnumbered {}).1 = .error (.invalidInterleave 1 1) := by rfl
  have wrote : (run { misnumbered with groupId := 1, groups := 2 } {}).1 =
      .ok ⟨1, [("SiriDB last row per host", 1)]⟩ := by decide +kernel
  have failed := all misnumbered 2 rfl (by decide) _ refused 1 (by decide)
  rw [wrote] at failed
  cases failed

end Generate

end QueryBench
