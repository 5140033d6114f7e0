import Mathlib.Algebra.Order.Field.Rat
import Mathlib.Tactic.FieldSimp
import Mathlib.Tactic.Positivity
import Mathlib.Tactic.Ring
import QueryBench.Proofs.Grouping

/- The same batches in another order. What a group counts does not depend on the order of its values,
   and what it sums up would not either, were the arithmetic exact. Values under different labels have
   nothing to do with each other, so any two of them may change places. -/
namespace QueryBench.Latency

namespace Moments

theorem lesser_none (v : ℚ) : lesser none v = some v := if_pos (beq_self_eq_true v)

theorem lesser_some (l v : ℚ) : lesser (some l) v = some (min l v) :=
  congrArg some (min_def_lt' l v).symm

theorem lesser_comm (old : Option ℚ) (v w : ℚ) :
    lesser (lesser old v) w = lesser (lesser old w) v := by
  cases old with
  | none => simp only [lesser_none, lesser_some, min_comm]
  | some l => simp only [lesser_some, min_right_comm]

theorem greater_none (v : ℚ) : greater none v = some v := if_pos (beq_self_eq_true v)

theorem greater_some (g v : ℚ) : greater (some g) v = some (max g v) :=
  congrArg some (max_def_lt g v).symm

theorem greater_comm (old : Option ℚ) (v w : ℚ) :
    greater (greater old v) w = greater (greater old w) v := by
  cases old with
  | none => simp only [greater_none, greater_some, max_comm]
  | some g => simp only [greater_some, max_right_comm]

theorem push_comm (m : Moments ℚ) (v w : ℚ) : (m.push v).push w = (m.push w).push v := by
  have one : (m.count : ℚ) + 1 ≠ 0 := by positivity
  have two : (m.count : ℚ) + 1 + 1 ≠ 0 := by positivity
  simp only [push, Moments.mk.injEq, true_and]
  refine ⟨?_, ?_, ?_, lesser_comm .., greater_comm ..⟩
  · ring
  · push_cast
    field_simp
    ring
  · push_cast
    field_simp
    ring

end Moments

theorem Histogram.record_comm (h : Histogram) (v w : Nat) :
    (h.record v).record w = (h.record w).record v := by
  unfold record
  by_cases same : Bucket.lowest (if v ≤ Bucket.limit then v else Bucket.hour) =
      Bucket.lowest (if w ≤ Bucket.limit then w else Bucket.hour)
  · rw [same]
  · exact congrArg mk (Table.alter_comm same _ _ h.buckets)

section Gather
variable {γ : Type} (init : γ) (push : γ → Float → γ)

def enter (t : Table String γ) (e : String × Float) : Table String γ :=
  t.alter e.1 fun old => push (old.getD init) e.2

def entries (prewarm : Bool) (o : Observation) : List (String × Float) :=
  (o.label, o.value) :: (allQueries, o.value) ::
    if prewarm then [(if o.warm then warmQueries else coldQueries, o.value)] else []

def gather (prewarm : Bool) (os : List Observation) : Table String γ :=
  (os.flatMap (entries prewarm)).foldl (enter init push) []

variable {init push}

theorem enter_comm (comm : ∀ g v w, push (push g v) w = push (push g w) v) :
    RightCommutative (enter init push) where
  right_comm t e f := by
    obtain ⟨label, v⟩ := e
    obtain ⟨other, w⟩ := f
    by_cases same : label = other
    · subst same
      simp only [enter, Table.alter_alter, Option.getD_some, comm]
    · exact Table.alter_comm same _ _ t

theorem gather_perm (comm : ∀ g v w, push (push g v) w = push (push g w) v) (prewarm : Bool)
    {os ps : List Observation} (same : os.Perm ps) :
    gather init push prewarm os = gather init push prewarm ps := by
  have commutes : RightCommutative (enter init push) := enter_comm comm
  exact (same.flatMap_right (entries prewarm)).foldl_eq []

theorem map_gather {δ : Type} {φ : γ → δ} {push' : δ → Float → δ}
    (follows : ∀ g v, φ (push g v) = push' (φ g) v) (prewarm : Bool) (os : List Observation) :
    (gather init push prewarm os).map (fun (label, g) => (label, φ g)) =
      gather (φ init) push' prewarm os := by
  have one : ∀ t e, enter (φ init) push' (t.map fun (label, g) => (label, φ g)) e =
      (enter init push t e).map fun (label, g) => (label, φ g) := by
    intro t e
    symm
    apply Table.map_alter
    intro old
    cases old with
    | none => exact follows init e.2
    | some g => exact follows g e.2
  exact (List.foldl_hom _ one).symm

end Gather

/-- What a group counts. -/
structure Tally where
  count : Nat := 0
  histogram : Histogram := {}
  deriving DecidableEq, Repr

def Tally.push (n : Tally) (v : Float) : Tally := ⟨n.count + 1, n.histogram.record (micros v)⟩

def Group.tally (g : Group) : Tally := ⟨g.count, g.histogram⟩

theorem Tally.push_comm (n : Tally) (v w : Float) : (n.push v).push w = (n.push w).push v :=
  congrArg (mk _) (Histogram.record_comm ..)

theorem observeAll_gather (prewarm : Bool) (os : List Observation) :
    observeAll prewarm os [] = gather {} Group.push prewarm os := by
  rw [gather, List.foldl_flatMap, observeAll]
  congr 1
  funext gs o
  cases prewarm with
  | false => rfl
  | true => rfl

/-- What the groups sum up, in the arithmetic of the numbers that their values stand for. -/
def momentsOf {α : Type} [NatCast α] [Add α] [Sub α] [Mul α] [Div α] [LT α] [DecidableLT α] [BEq α]
    (reading : Float → α) (prewarm : Bool) (os : List Observation) : Table String (Moments α) :=
  gather .empty (fun m v => m.push (reading v)) prewarm os

/-- The same labels, and under each of them the same count and the same histogram, so the same
percentiles too. -/
structure Groups.Alike (gs hs : Groups) : Prop where
  labels : hs.map Prod.fst = gs.map Prod.fst
  counts : ∀ label, (hs.find? label).map Group.count = (gs.find? label).map Group.count
  histograms : ∀ label, (hs.find? label).map Group.histogram = (gs.find? label).map Group.histogram
  percentiles : ∀ label p,
    (hs.find? label).map (·.percentile p) = (gs.find? label).map (·.percentile p)

theorem alike_of_tallies {gs hs : Groups}
    (same : hs.map (fun (label, g) => (label, g.tally)) =
      gs.map (fun (label, g) => (label, g.tally))) : gs.Alike hs := by
  have under : ∀ label, (hs.find? label).map Group.tally = (gs.find? label).map Group.tally := by
    intro label
    rw [← Table.find?_map, ← Table.find?_map, same]
  -- all that is asked for is read off the tallies
  have read : ∀ {α : Type} (f : Tally → α) label,
      (hs.find? label).map (fun g => f g.tally) = (gs.find? label).map fun g => f g.tally := by
    intro α f label
    have mapped := congrArg (Option.map f) (under label)
    rwa [Option.map_map, Option.map_map] at mapped
  constructor
  · have labels := congrArg (List.map Prod.fst) same
    rwa [List.map_map, List.map_map] at labels
  · exact read Tally.count
  · exact read Tally.histogram
  · exact fun label p => read (fun n => Float.ofNat (n.histogram.percentile p) / 1000) label

namespace Collector

def Arrival.batch? : Arrival → Option (List Observation)
  | .batch observations => some observations
  | .tick => none

def batches (arrivals : List (Nat × Arrival)) : List (List Observation) :=
  arrivals.filterMap fun a => a.2.batch?

theorem received_batches (arrivals : List (Nat × Arrival)) :
    received arrivals = (batches arrivals).flatten := by
  induction arrivals with
  | nil => rfl
  | cons a rest ih =>
    obtain ⟨now, a⟩ := a
    rw [received_cons, ih]
    cases a with
    | batch os => rfl
    | tick => rfl

/-- Without burn-in the order of the batches does not matter, nor do the times at which they come and
the reports in between: the collector counts the same queries, and its groups are alike. In exact
arithmetic the sums, the means and the squared deviations would be the same as well. -/
theorem order_of_batches_does_not_matter (s : Settings) (measured : s.burnIn = 0) (phase : Phase)
    (began began' : Nat) {arrivals others : List (Nat × Arrival)}
    (same : (batches arrivals).Perm (batches others)) {sink sink' : Sink} (free : sink.Unfailing)
    (free' : sink'.Unfailing) :
    ∃ c texts c' texts',
      (fresh s phase began).handleEach sink arrivals = (.ok (), c, sink.took texts) ∧
      (fresh s phase began').handleEach sink' others = (.ok (), c', sink'.took texts') ∧
      c'.queries = c.queries ∧ c.groups.Alike c'.groups ∧ c'.ladderText = c.ladderText ∧
      c.groups.map (fun (label, g) => (label, g.moments)) =
        momentsOf id s.prewarm (received arrivals) ∧
      c'.groups.map (fun (label, g) => (label, g.moments)) =
        momentsOf id s.prewarm (received others) ∧
      ∀ reading : Float → ℚ, momentsOf reading s.prewarm (received others) =
        momentsOf reading s.prewarm (received arrivals) := by
  obtain ⟨c, texts, ran, kept, -⟩ := handleEach_measuring free
    (c := fresh s phase began) (Nat.le_of_eq measured) arrivals
  obtain ⟨c', texts', ran', kept', -⟩ := handleEach_measuring free'
    (c := fresh s phase began') (Nat.le_of_eq measured) others
  have groups : c.groups = gather {} Group.push s.prewarm (received arrivals) :=
    kept.groups.trans (observeAll_gather ..)
  have groups' : c'.groups = gather {} Group.push s.prewarm (received others) :=
    kept'.groups.trans (observeAll_gather ..)
  have reordered : (received others).Perm (received arrivals) := by
    rw [received_batches, received_batches]
    exact same.symm.flatten
  have alike : c.groups.Alike c'.groups := by
    apply alike_of_tallies
    have tallied : ∀ os,
        (gather {} Group.push s.prewarm os).map (fun (label, g) => (label, g.tally)) =
          gather {} Tally.push s.prewarm os := map_gather (fun _ _ => rfl) s.prewarm
    rw [groups, groups', tallied, tallied]
    exact gather_perm Tally.push_comm s.prewarm reordered
  have ladder : c'.ladderText = c.ladderText := by
    have histogram := congrArg (Option.getD · {}) (alike.histograms allQueries)
    simp only [ladderText, ← Option.getD_map Group.histogram {}]
    exact congrArg Ladder.toText histogram
  refine ⟨c, texts, c', texts', ran, ran', ?_, alike, ladder, ?_, ?_, ?_⟩
  · rw [kept.queries, kept'.queries]
    exact congrArg (0 + ·) (reordered.countP_eq _)
  · rw [groups]
    exact map_gather (fun _ _ => rfl) ..
  · rw [groups']
    exact map_gather (fun _ _ => rfl) ..
  · intro reading
    exact gather_perm (fun m v w => Moments.push_comm m _ _) s.prewarm reordered

def revisits : List (Nat × Arrival) :=
  [(1, .batch [{ label := "b", value := 5, partialResult := true }, { label := "b", value := 3 },
      { label := "b", value := 4, warm := true }]),
    (2, .batch [{ label := "a", value := 2 }, { label := "a", value := 1, warm := true }]),
    (3, .batch [])]

theorem revisits_alike :
    (calledTwice.burnIn = 0 ∧ (batches visits).Perm (batches revisits) ∧ ({} : Sink).Unfailing) ∧
      ∃ c texts c' texts',
        (fresh calledTwice .idle 0).handleEach {} visits =
          (.ok (), c, ({} : Sink).took texts) ∧
        (fresh calledTwice .idle 0).handleEach {} revisits =
          (.ok (), c', ({} : Sink).took texts') ∧
        c'.queries = c.queries ∧ c.groups.Alike c'.groups ∧ c'.ladderText = c.ladderText ∧
        c.groups.map (fun (label, g) => (label, g.moments)) =
          momentsOf id calledTwice.prewarm (received visits) ∧
        c'.groups.map (fun (label, g) => (label, g.moments)) =
          momentsOf id calledTwice.prewarm (received revisits) ∧
        ∀ reading : Float → ℚ, momentsOf reading calledTwice.prewarm (received revisits) =
          momentsOf reading calledTwice.prewarm (received visits) := by
  have reordered : (batches visits).Perm (batches revisits) := by
    rw [← List.take_append_drop 2 (batches visits)]
    exact List.perm_append_comm
  have free : ({} : Sink).Unfailing := ⟨rfl, rfl⟩
  exact ⟨⟨rfl, reordered, free⟩,
    order_of_batches_does_not_matter calledTwice rfl .idle 0 0 reordered free free⟩

end Collector

end QueryBench.Latency
