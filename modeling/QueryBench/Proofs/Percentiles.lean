import Mathlib.Algebra.Group.Nat.Defs
import Mathlib.Data.List.Sort
import Mathlib.Data.Nat.Log
import QueryBench.Proofs.Grouping

/- Percentiles against the values themselves. The buckets of a histogram, each as often as it was
   met, are the values in their order, each rounded down to the least of its bucket. So the bucket at
   a rank is that of the value at this rank, and its greatest value is the answer. -/
namespace QueryBench

namespace Table
variable {κ : Type}

/-- The keys of a table of counts, each as often as it was counted. -/
def spread : Table κ Nat → List κ
  | [] => []
  | (k, n) :: rest => List.replicate n k ++ spread rest

theorem length_spread (t : Table κ Nat) : t.spread.length = t.total := by
  induction t with
  | nil => rfl
  | cons first rest ih =>
    obtain ⟨k, n⟩ := first
    simp only [spread, total, List.length_append, List.length_replicate, ih]

theorem mem_spread {t : Table κ Nat} {key : κ} (member : key ∈ t.spread) :
    ∃ n, (key, n) ∈ t := by
  induction t with
  | nil => cases member
  | cons first rest ih =>
    obtain ⟨k, n⟩ := first
    rcases List.mem_append.mp member with here | there
    · obtain rfl := List.eq_of_mem_replicate here
      exact ⟨n, List.mem_cons_self⟩
    · obtain ⟨m, inside⟩ := ih there
      exact ⟨m, List.mem_cons_of_mem _ inside⟩

theorem spread_count [Ord κ] [Std.LawfulEqOrd κ] (key : κ) (t : Table κ Nat) :
    (t.count 1 key).spread.Perm (key :: t.spread) := by
  unfold count
  induction t with
  | nil => exact List.Perm.refl _
  | cons first rest ih =>
    obtain ⟨k, n⟩ := first
    rw [alter]
    split
    · exact List.Perm.refl _
    · rename_i equal
      obtain rfl := Std.LawfulEqCmp.eq_of_compare equal
      exact List.Perm.refl _
    · simp only [spread]
      refine (ih.append_left _).trans ?_
      exact List.perm_middle

theorem spread_sorted {t : Table Nat Nat} (sorted : t.Sorted) : t.spread.SortedLE := by
  rw [List.sortedLE_iff_pairwise]
  induction t with
  | nil => exact .nil
  | cons first rest ih =>
    obtain ⟨k, n⟩ := first
    obtain ⟨front, tail⟩ := List.pairwise_cons.mp sorted
    have alike : (List.replicate n k).Pairwise (· ≤ ·) :=
      List.pairwise_replicate.mpr (.inr (Nat.le_refl k))
    refine List.pairwise_append.mpr ⟨alike, ih tail, ?_⟩
    intro a here b there
    obtain rfl := List.eq_of_mem_replicate here
    obtain ⟨m, inside⟩ := mem_spread there
    exact Nat.le_of_lt (Nat.compare_eq_lt.mp (front (b, m) inside))

end Table

namespace Latency

namespace Bucket

theorem width_eq (v : Nat) : width v = 2 ^ (Nat.log 2 v - 10) := by
  unfold width
  rw [Nat.shiftLeft_eq, Nat.one_mul, Nat.log2_eq_log_two]

theorem width_pos (v : Nat) : 0 < width v := by
  rw [width_eq]
  exact Nat.two_pow_pos _

theorem width_small {v : Nat} (small : v < 2048) : width v = 1 := by
  have short : Nat.log 2 v < 11 := Nat.log_lt_of_lt_pow' (by decide) small
  have narrow : Nat.log 2 v - 10 = 0 := by omega
  rw [width_eq, narrow, Nat.pow_zero]

theorem width_mono {v w : Nat} (ordered : v ≤ w) : width v ≤ width w := by
  have logs : Nat.log 2 v ≤ Nat.log 2 w := Nat.log_mono_right ordered
  rw [width_eq, width_eq]
  apply Nat.pow_le_pow_right (by decide)
  omega

theorem width_le (v : Nat) : width v - 1 ≤ v / 1024 := by
  by_cases small : v < 2048
  · rw [width_small small]
    omega
  · have large : 11 ≤ Nat.log 2 v := Nat.le_log_of_pow_le (by decide) (Nat.le_of_not_lt small)
    have power : 2 ^ Nat.log 2 v ≤ v := Nat.pow_log_le_self 2 (by omega)
    have split : 2 ^ Nat.log 2 v = width v * 1024 := by
      rw [width_eq, show (1024 : Nat) = 2 ^ 10 from rfl, ← Nat.pow_add]
      congr 1
      omega
    omega

theorem lowest_le (v : Nat) : lowest v ≤ v := Nat.div_mul_le_self v _

theorem lt_lowest_add_width (v : Nat) : v < lowest v + width v :=
  Nat.lt_div_mul_add (width_pos v)

theorem power_le_lowest {v : Nat} (positive : v ≠ 0) : 2 ^ Nat.log 2 v ≤ lowest v := by
  have power : 2 ^ Nat.log 2 v ≤ v := Nat.pow_log_le_self 2 positive
  have whole : width v ∣ 2 ^ Nat.log 2 v := by
    rw [width_eq]
    exact Nat.pow_dvd_pow 2 (Nat.sub_le _ _)
  calc 2 ^ Nat.log 2 v = 2 ^ Nat.log 2 v / width v * width v := (Nat.div_mul_cancel whole).symm
    _ ≤ lowest v := Nat.mul_le_mul_right _ (Nat.div_le_div_right power)

theorem width_lowest (v : Nat) : width (lowest v) = width v := by
  by_cases zero : v = 0
  · rw [zero]
    rfl
  · have above : lowest v < 2 ^ (Nat.log 2 v + 1) :=
      Nat.lt_of_le_of_lt (lowest_le v) (Nat.lt_pow_succ_log_self (by decide) v)
    have logs : Nat.log 2 (lowest v) = Nat.log 2 v :=
      Nat.log_eq_of_pow_le_of_lt_pow (power_le_lowest zero) above
    rw [width_eq, width_eq, logs]

/-- Buckets do not overlap: either two values have the same width, or a power of two lies between
their buckets. -/
theorem lowest_mono {v w : Nat} (ordered : v ≤ w) : lowest v ≤ lowest w := by
  rcases Nat.lt_or_eq_of_le (Nat.log_mono_right (b := 2) ordered) with less | same
  · have positive : w ≠ 0 := by
      rintro rfl
      rw [Nat.log_zero_right] at less
      omega
    calc lowest v ≤ v := lowest_le v
      _ ≤ 2 ^ (Nat.log 2 v + 1) := Nat.le_of_lt (Nat.lt_pow_succ_log_self (by decide) v)
      _ ≤ 2 ^ Nat.log 2 w := Nat.pow_le_pow_right (by decide) less
      _ ≤ lowest w := power_le_lowest positive
  · have equal : width v = width w := by rw [width_eq, width_eq, same]
    unfold lowest
    rw [equal]
    exact Nat.mul_le_mul_right _ (Nat.div_le_div_right ordered)

theorem highest_mono {a b : Nat} (ordered : a ≤ b) : highest a ≤ highest b := by
  have widths := width_mono ordered
  have positive := width_pos a
  unfold highest
  omega

theorem highest_lowest (v : Nat) :
    v ≤ highest (lowest v) ∧ highest (lowest v) ≤ v + v / 1024 ∧
      (v < 2048 → highest (lowest v) = v) := by
  have below := lowest_le v
  have above := lt_lowest_add_width v
  have narrow := width_le v
  unfold highest
  rw [width_lowest]
  refine ⟨by omega, by omega, ?_⟩
  intro small
  rw [width_small small] at above ⊢
  omega

end Bucket

namespace Histogram

def bucketOf (v : Nat) : Nat := Bucket.lowest (if v ≤ Bucket.limit then v else Bucket.hour)

theorem spread_record (h : Histogram) (v : Nat) :
    (h.record v).buckets.spread.Perm (bucketOf v :: h.buckets.spread) :=
  Table.spread_count (bucketOf v) h.buckets

theorem spread_recordAll (vs : List Nat) (h : Histogram) :
    (vs.foldl record h).buckets.spread.Perm (vs.map bucketOf ++ h.buckets.spread) := by
  induction vs generalizing h with
  | nil => exact List.Perm.refl _
  | cons v vs ih =>
    rw [List.foldl_cons, List.map_cons]
    refine (ih (h.record v)).trans ?_
    refine ((spread_record h v).append_left _).trans ?_
    exact List.perm_middle

theorem total_recordAll (vs : List Nat) : (vs.foldl record {}).total = vs.length := by
  have all := (spread_recordAll vs {}).length_eq
  rw [Table.length_spread, List.length_append, List.length_map] at all
  exact all

theorem sorted_recordAll {h : Histogram} (sorted : h.buckets.Sorted) (vs : List Nat) :
    (vs.foldl record h).buckets.Sorted := by
  induction vs generalizing h with
  | nil => exact sorted
  | cons v vs ih => exact ih (Table.sorted_alter sorted _ _)

theorem spread_ordered {vs : List Nat} (tracked : ∀ v ∈ vs, v ≤ Bucket.limit) :
    (vs.foldl record {}).buckets.spread = vs.mergeSort.map Bucket.lowest := by
  have own : vs.map bucketOf = vs.map Bucket.lowest := by
    apply List.map_congr_left
    intro v member
    rw [bucketOf, if_pos (tracked v member)]
  have met : (vs.foldl record {}).buckets.spread.Perm (vs.map Bucket.lowest) := by
    have all := spread_recordAll vs {}
    rw [own] at all
    exact all.trans (List.Perm.of_eq (List.append_nil _))
  have kept := Table.spread_sorted (sorted_recordAll (h := {}) Table.sorted_nil vs)
  have ordered : (vs.mergeSort.map Bucket.lowest).SortedLE := by
    rw [List.sortedLE_iff_pairwise]
    refine List.Pairwise.map _ (fun _ _ => Bucket.lowest_mono) ?_
    exact List.sortedLE_iff_pairwise.mp List.sortedLE_mergeSort
  refine List.Perm.eq_of_sortedLE kept ordered (met.trans ?_)
  exact ((List.mergeSort_perm vs _).map Bucket.lowest).symm

/-- The running count comes up to a rank at the bucket that has this rank. -/
theorem reach?_eq (t : Table Nat Nat) {rank : Nat} (first : 1 ≤ rank) :
    reach? rank t = t.spread[rank - 1]? := by
  induction t generalizing rank with
  | nil => rfl
  | cons entry rest ih =>
    obtain ⟨b, n⟩ := entry
    rw [reach?, Table.spread]
    split
    · rename_i inside
      rw [List.getElem?_append_left (by rw [List.length_replicate]; omega),
        List.getElem?_replicate, if_pos (by omega)]
    · rename_i beyond
      rw [List.getElem?_append_right (by rw [List.length_replicate]; omega), List.length_replicate,
        ih (by omega)]
      congr 1
      omega

def share (p : Float) : Float := if 1 < p / 100 then 1 else p / 100

def aim (h : Histogram) (p : Float) : Nat := rank (share p) h.total

theorem one_le_aim (h : Histogram) (p : Float) : 1 ≤ h.aim p := Nat.le_max_left _ _

/-- A percentile so small that the division leaves nothing of it. -/
def vanishes (p : Float) : Bool := p / 100 == 0

theorem share_nonzero {p : Float} (kept : vanishes p = false) : (share p == 0) = false := by
  unfold share
  split
  · decide +kernel
  · exact kept

theorem percentile_eq (h : Histogram) {p : Float} (kept : vanishes p = false) :
    h.percentile p = (h.buckets.spread[h.aim p - 1]?.map Bucket.highest).getD 0 := by
  have nonzero : ((if 1 < p / 100 then 1 else p / 100) == 0) = false := share_nonzero kept
  rw [← reach?_eq h.buckets (one_le_aim h p), percentile]
  cases reached : reach? (h.aim p) h.buckets with
  | none =>
    rw [aim, share] at reached
    simp only [reached, Option.map_none, Option.getD_none]
  | some b =>
    rw [aim, share] at reached
    simp only [reached, nonzero, Bool.false_eq_true, if_false, Option.map_some, Option.getD_some]

/-- What the percentiles of a histogram are to the values in their order. -/
structure Answers (h : Histogram) (ordered : List Nat) : Prop where
  close : ∀ p x, vanishes p = false → ordered[h.aim p - 1]? = some x →
    x ≤ h.percentile p ∧ h.percentile p ≤ x + x / 1024
  same : ∀ p x, vanishes p = false → ordered[h.aim p - 1]? = some x → x < 2048 →
    h.percentile p = x
  grows : ∀ p q, vanishes p = false → vanishes q = false → h.aim p ≤ h.aim q →
    h.aim q ≤ ordered.length → h.percentile p ≤ h.percentile q

theorem percentile_at {h : Histogram} {ordered : List Nat}
    (spread : h.buckets.spread = ordered.map Bucket.lowest) {p : Float}
    (kept : vanishes p = false) {x : Nat} (place : ordered[h.aim p - 1]? = some x) :
    h.percentile p = Bucket.highest (Bucket.lowest x) := by
  rw [percentile_eq h kept, spread, List.getElem?_map, place]
  rfl

theorem answers_of_spread {h : Histogram} {ordered : List Nat} (sorted : ordered.SortedLE)
    (spread : h.buckets.spread = ordered.map Bucket.lowest) : h.Answers ordered := by
  constructor
  · intro p x kept place
    obtain ⟨above, near, -⟩ := Bucket.highest_lowest x
    rw [percentile_at spread kept place]
    exact ⟨above, near⟩
  · intro p x kept place small
    obtain ⟨-, -, equal⟩ := Bucket.highest_lowest x
    rw [percentile_at spread kept place]
    exact equal small
  · intro p q keptP keptQ ranks within
    have firstP := one_le_aim h p
    have firstQ := one_le_aim h q
    have insideP : h.aim p - 1 < ordered.length := by omega
    have insideQ : h.aim q - 1 < ordered.length := by omega
    have earlier : ordered[h.aim p - 1] ≤ ordered[h.aim q - 1] :=
      sorted.getElem_le_getElem_of_le (by omega)
    rw [percentile_at spread keptP (List.getElem?_eq_getElem insideP),
      percentile_at spread keptQ (List.getElem?_eq_getElem insideQ)]
    exact Bucket.highest_mono (Bucket.lowest_mono earlier)

end Histogram

namespace Group

theorem histogram_foldl_push (xs : List Float) (g : Group) :
    (xs.foldl push g).histogram = (xs.map micros).foldl Histogram.record g.histogram := by
  induction xs generalizing g with
  | nil => rfl
  | cons x xs ih => exact ih (g.push x)

def ordered (xs : List Float) : List Nat := (xs.map micros).mergeSort

/-- A histogram counts whatever is pushed. As long as nothing is slower than an hour, a percentile is
never below the value at its rank and above it by a thousandth at most, is that value itself below
2048 microseconds, and never falls as the rank grows. -/
theorem percentiles_follow_ranks (xs : List Float) :
    (xs.foldl push {}).histogram.total = (xs.foldl push {}).count ∧
      (xs.foldl push {}).count = xs.length ∧
      ((∀ x ∈ xs, micros x ≤ Bucket.hour) → (xs.foldl push {}).histogram.Answers (ordered xs)) := by
  have recorded : (xs.foldl push {}).histogram = (xs.map micros).foldl Histogram.record {} :=
    histogram_foldl_push xs {}
  have counted : (xs.foldl push {}).count = xs.length :=
    (count_foldl_push xs {}).trans (Nat.zero_add _)
  rw [recorded, counted]
  refine ⟨?_, rfl, ?_⟩
  · rw [Histogram.total_recordAll, List.length_map]
  · intro tracked
    apply Histogram.answers_of_spread List.sortedLE_mergeSort
    apply Histogram.spread_ordered
    intro v member
    obtain ⟨x, inside, rfl⟩ := List.mem_map.mp member
    exact (tracked x inside).trans (by decide)

def strays : List Float := [2.049, 0 / 0, 3600000, -1 / 0, -7, 0.5]

theorem strays_follow_ranks :
    (∀ x ∈ strays, micros x ≤ Bucket.hour) ∧
      (strays.foldl push {}).histogram.total = (strays.foldl push {}).count ∧
      (strays.foldl push {}).count = strays.length ∧
      (strays.foldl push {}).histogram.Answers (ordered strays) := by
  have tracked : ∀ x ∈ strays, micros x ≤ Bucket.hour := by decide +kernel
  obtain ⟨total, counted, follow⟩ := percentiles_follow_ranks strays
  exact ⟨tracked, total, counted, follow tracked⟩

/-- A percentile above zero that vanishes is answered like percentile zero, by the least value of
the bucket, which is below the only value there is. -/
theorem vanishing_percentile_falls_short :
    (∀ x ∈ [2.049], micros x ≤ Bucket.hour) ∧ (0 : Float) < 1e-322 ∧
      ([2.049].foldl push {}).histogram.aim 1e-322 = 1 ∧ (ordered [2.049])[0]? = some 2049 ∧
      ([2.049].foldl push {}).histogram.percentile 1e-322 = 2048 ∧
      Histogram.vanishes 1e-322 = true := by
  refine ⟨by decide +kernel, by decide +kernel, by decide +kernel, ?_, by decide +kernel,
    by decide +kernel⟩
  have rounded : micros 2.049 = 2049 := by decide +kernel
  rw [ordered, List.map_singleton, rounded, List.mergeSort_singleton]
  rfl

example : ([2, 4, 4, 4, 5, 5, 7, 9].foldl push {}).histogram.percentile 50 = 4001 := by
  decide +kernel

end Group
end Latency
end QueryBench
