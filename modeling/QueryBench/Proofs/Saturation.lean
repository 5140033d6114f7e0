import QueryBench.Proofs.FloatUnits
import QueryBench.Proofs.Percentiles

/- Latencies of more than an hour. Those beyond the buckets stand for an hour each, but the buckets
   reach further than an hour, and what lies in between is counted as it is. So a histogram is that
   of the values cut off at an hour exactly as long as nothing lies there. -/
namespace QueryBench.Latency
open Binary64

theorem micros_units (v : Float) :
    micros v =
      min (UInt64.size - 1) (wholes (min (nearest (1000 * units (ofFloat v))) infinite)) := by
  rw [micros, toNatUpTo_units (by decide), units_thousandfold]

theorem micros_mono {v w : Float} (ordered : units (ofFloat v) ≤ units (ofFloat w)) :
    micros v ≤ micros w := by
  have rounded : nearest (1000 * units (ofFloat v)) ≤ nearest (1000 * units (ofFloat w)) :=
    nearest_mono (Nat.mul_le_mul_left _ ordered)
  rw [micros_units, micros_units]
  exact min_le_min_left _ (wholes_mono (min_le_min_right infinite rounded))

def hourLong : Float := 3600000

theorem hourLong_read : hourLong.toModel.unpack =
    .finite .positive (3600000 * 2 ^ 31) (-31) (by decide) := by
  rfl

theorem micros_hourLong : micros hourLong = Bucket.hour := by decide +kernel

theorem hour_le_micros {v : Float} (longer : hourLong < v) : Bucket.hour ≤ micros v := by
  rw [← micros_hourLong]
  exact micros_mono ((threshold hourLong_read v).1 longer)

theorem micros_le_hour {v : Float} (other : ¬ hourLong < v) : micros v ≤ Bucket.hour := by
  rw [← micros_hourLong]
  exact micros_mono ((threshold hourLong_read v).2 other)

namespace Bucket

/-- More than the bucket of an hour holds, and still within the buckets. -/
def Between (v : Nat) : Prop := highest (lowest hour) < v ∧ v ≤ limit

instance (v : Nat) : Decidable (Between v) := inferInstanceAs (Decidable (_ ∧ _))

theorem lowest_le_hour {v : Nat} (within : v ≤ highest (lowest hour)) : lowest v ≤ lowest hour := by
  have edge : lowest (highest (lowest hour)) = lowest hour := by decide
  exact (lowest_mono within).trans (Nat.le_of_eq edge)

theorem hour_lt_lowest {v : Nat} (beyond : highest (lowest hour) < v) : lowest hour < lowest v := by
  have edge : lowest (highest (lowest hour) + 1) = highest (lowest hour) + 1 := by decide
  calc lowest hour < highest (lowest hour) + 1 := by decide
    _ = lowest (highest (lowest hour) + 1) := edge.symm
    _ ≤ lowest v := lowest_mono beyond

end Bucket

namespace Histogram

theorem bucketOf_le_hour {v : Nat} (outside : ¬ Bucket.Between v) :
    bucketOf v ≤ Bucket.lowest Bucket.hour := by
  unfold bucketOf
  split
  · rename_i tracked
    apply Bucket.lowest_le_hour
    by_contra beyond
    exact outside ⟨Nat.lt_of_not_le beyond, tracked⟩
  · exact Nat.le_refl _

theorem bucketOf_le_limit (v : Nat) : bucketOf v ≤ Bucket.lowest Bucket.limit := by
  unfold bucketOf
  split
  · rename_i tracked
    exact Bucket.lowest_mono tracked
  · decide

theorem hour_lt_bucketOf {v : Nat} (between : Bucket.Between v) :
    Bucket.lowest Bucket.hour < bucketOf v := by
  rw [bucketOf, if_pos between.2]
  exact Bucket.hour_lt_lowest between.1

theorem bucketOf_hour {v : Nat} (long : Bucket.hour ≤ v) (outside : ¬ Bucket.Between v) :
    bucketOf v = Bucket.lowest Bucket.hour := by
  refine Nat.le_antisymm (bucketOf_le_hour outside) ?_
  unfold bucketOf
  split
  · exact Bucket.lowest_mono long
  · exact Nat.le_refl _

/-- A histogram takes nothing of a value but its bucket. -/
theorem recordAll_congr {α : Type} {f g : α → Nat} {as : List α}
    (alike : ∀ a ∈ as, bucketOf (f a) = bucketOf (g a)) (h : Histogram) :
    (as.map f).foldl record h = (as.map g).foldl record h := by
  induction as generalizing h with
  | nil => rfl
  | cons a as ih =>
    have first : h.record (f a) = h.record (g a) :=
      congrArg (fun b => (⟨h.buckets.count 1 b⟩ : Histogram)) (alike a List.mem_cons_self)
    rw [List.map_cons, List.map_cons, List.foldl_cons, List.foldl_cons, first]
    exact ih (fun b member => alike b (List.mem_cons_of_mem a member)) _

theorem mem_recordAll (vs : List Nat) (b : Nat) :
    b ∈ (vs.foldl record {}).buckets.spread ↔ b ∈ vs.map bucketOf := by
  rw [(spread_recordAll vs {}).mem_iff]
  exact iff_of_eq (congrArg (b ∈ ·) (List.append_nil _))

theorem percentile_le {h : Histogram} {c : Nat} (within : ∀ b ∈ h.buckets.spread, b ≤ c)
    (p : Float) : h.percentile p ≤ Bucket.highest c := by
  rw [percentile]
  cases reached : reach? (h.aim p) h.buckets with
  | none =>
    rw [aim, share] at reached
    simp only [reached]
    exact Nat.zero_le _
  | some b =>
    have last : b ≤ c := by
      rw [reach?_eq h.buckets (one_le_aim h p)] at reached
      exact within b (List.mem_of_getElem? reached)
    have least : b ≤ Bucket.highest b := by
      have positive := Bucket.width_pos b
      unfold Bucket.highest
      omega
    have greatest := Bucket.highest_mono last
    rw [aim, share] at reached
    simp only [reached]
    show (if (share p == 0) = true then b else Bucket.highest b) ≤ _
    split
    · exact least.trans greatest
    · exact greatest

end Histogram

namespace Group

def capped (v : Float) : Float := if hourLong < v then hourLong else v

theorem micros_capped_le (v : Float) : micros (capped v) ≤ Bucket.hour := by
  unfold capped
  split
  · exact Nat.le_of_eq micros_hourLong
  · rename_i other
    exact micros_le_hour other

theorem capped_outside (v : Float) : ¬ Bucket.Between (micros (capped v)) := by
  have hour : Bucket.hour ≤ Bucket.highest (Bucket.lowest Bucket.hour) := by decide
  rintro ⟨beyond, -⟩
  exact Nat.not_lt.mpr ((micros_capped_le v).trans hour) beyond

theorem bucketOf_capped {v : Float} (outside : ¬ Bucket.Between (micros v)) :
    Histogram.bucketOf (micros v) = Histogram.bucketOf (micros (capped v)) := by
  unfold capped
  split
  · rename_i longer
    rw [micros_hourLong, Histogram.bucketOf_hour (hour_le_micros longer) outside]
    decide
  · rfl

theorem mem_buckets (xs : List Float) (b : Nat) :
    b ∈ (xs.foldl push {}).histogram.buckets.spread ↔
      ∃ x ∈ xs, Histogram.bucketOf (micros x) = b := by
  rw [histogram_foldl_push, Histogram.mem_recordAll, List.map_map]
  simp only [List.mem_map, Function.comp_apply]

theorem percentile_within {xs : List Float} {c : Nat}
    (within : ∀ x ∈ xs, Histogram.bucketOf (micros x) ≤ c) (p : Float) :
    (xs.foldl push {}).histogram.percentile p ≤ Bucket.highest c := by
  refine Histogram.percentile_le ?_ p
  intro b member
  obtain ⟨x, inside, rfl⟩ := (mem_buckets xs b).mp member
  exact within x inside

/-- What a group has recorded is what it would have of the values cut off at an hour, exactly as long
as none of them is between the bucket of an hour and the end of the buckets. Then no percentile is
above an hour by more than a thousandth; otherwise only the end of the buckets bounds them. A value
beyond that end stands for an hour, however large it is. -/
theorem hour_cuts_off_outside_the_gap (xs : List Float) :
    ((xs.foldl push {}).histogram = ((xs.map capped).foldl push {}).histogram ↔
      ∀ x ∈ xs, ¬ Bucket.Between (micros x)) ∧
    ((∀ x ∈ xs, ¬ Bucket.Between (micros x)) → ∀ p,
      (xs.foldl push {}).histogram.percentile p ≤ Bucket.hour + Bucket.hour / 1000) ∧
    ∀ p, (xs.foldl push {}).histogram.percentile p ≤ Bucket.limit := by
  refine ⟨⟨?_, ?_⟩, ?_, ?_⟩
  · intro same x member between
    have kept := (mem_buckets xs _).mpr ⟨x, member, rfl⟩
    rw [same] at kept
    obtain ⟨y, inside, bucket⟩ := (mem_buckets _ _).mp kept
    obtain ⟨z, -, rfl⟩ := List.mem_map.mp inside
    have hour := Histogram.bucketOf_le_hour (capped_outside z)
    rw [bucket] at hour
    exact Nat.not_lt.mpr hour (Histogram.hour_lt_bucketOf between)
  · intro outside
    rw [histogram_foldl_push, histogram_foldl_push, List.map_map]
    exact Histogram.recordAll_congr (fun x member => bucketOf_capped (outside x member)) {}
  · intro outside p
    have within := percentile_within
      (fun x member => Histogram.bucketOf_le_hour (outside x member)) p
    exact within.trans (by decide)
  · intro p
    have within := @percentile_within xs _ (fun _ _ => Histogram.bucketOf_le_limit _) p
    exact within.trans (by decide)

def slow : List Float := [36000000, 3600500, 0.5]

theorem slow_is_cut_off :
    (∀ x ∈ slow, ¬ Bucket.Between (micros x)) ∧
      (slow.foldl push {}).histogram = ((slow.map capped).foldl push {}).histogram ∧
      (slow.foldl push {}).histogram.percentile 100 ≤ Bucket.hour + Bucket.hour / 1000 := by
  have outside : ∀ x ∈ slow, ¬ Bucket.Between (micros x) := by decide +kernel
  obtain ⟨cut, bounded, -⟩ := hour_cuts_off_outside_the_gap slow
  exact ⟨outside, cut.mpr outside, bounded outside 100⟩

/-- Four thousand seconds are recorded as such, not as an hour. -/
theorem four_thousand_seconds_are_kept :
    hourLong < 4000000 ∧
      ([4000000].foldl push {}).histogram ≠ (([4000000].map capped).foldl push {}).histogram ∧
      Bucket.hour + Bucket.hour / 1000 < ([4000000].foldl push {}).histogram.percentile 100 := by
  decide +kernel

end Group
end QueryBench.Latency
