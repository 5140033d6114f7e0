import QueryBench.Latency.Ladder
import QueryBench.Proofs.Saturation
import QueryBench.Proofs.Thousandths

/- The rows of a percentile ladder. A row adds to the total what was counted since the row before,
   so wherever the walk stops, and however often at one bucket, the total and the part of the count
   that is still to be given make up the count. Hence a row counts the values up to its own. -/
namespace QueryBench

namespace Table

theorem countP_spread (b n : Nat) (rest : Table Nat Nat) (c : Nat) :
    (spread ((b, n) :: rest)).countP (· ≤ c) =
      (if b ≤ c then n else 0) + rest.spread.countP (· ≤ c) := by
  rw [spread, List.countP_append, List.countP_replicate]
  simp only [decide_eq_true_eq]

theorem countP_behind {b : Nat} {rest : Table Nat Nat}
    (front : ∀ entry ∈ rest, compare b entry.1 = .lt) : rest.spread.countP (· ≤ b) = 0 := by
  rw [List.countP_eq_zero]
  intro key member
  obtain ⟨m, inside⟩ := mem_spread member
  have above : b < key := Nat.compare_eq_lt.mp (front (key, m) inside)
  simpa using above

end Table

namespace Latency

namespace Bucket

theorem width_highest (v : Nat) : width (highest (lowest v)) = width v := by
  by_cases zero : v = 0
  · rw [zero]
    rfl
  · have positive := width_pos v
    have below : lowest v < 2 ^ (Nat.log 2 v + 1) :=
      Nat.lt_of_le_of_lt (lowest_le v) (Nat.lt_pow_succ_log_self (by decide) v)
    have whole : width v ∣ 2 ^ (Nat.log 2 v + 1) - lowest v := by
      rw [width_eq]
      refine Nat.dvd_sub (Nat.pow_dvd_pow 2 (by omega)) ?_
      rw [lowest, width_eq]
      exact Nat.dvd_mul_left _ _
    have room : width v ≤ 2 ^ (Nat.log 2 v + 1) - lowest v := Nat.le_of_dvd (by omega) whole
    have first := power_le_lowest zero
    have logs : Nat.log 2 (lowest v + width v - 1) = Nat.log 2 v :=
      Nat.log_eq_of_pow_le_of_lt_pow (by omega) (by omega)
    rw [highest, width_lowest, width_eq, logs, width_eq]

theorem lowest_highest (v : Nat) : lowest (highest (lowest v)) = lowest v := by
  have positive := width_pos v
  have last : (v / width v * width v + width v - 1) / width v = v / width v := by
    apply Nat.div_eq_of_lt_le
    · omega
    · rw [Nat.add_mul, Nat.one_mul]
      omega
  rw [lowest, width_highest, highest, width_lowest, lowest, last]

end Bucket

namespace Histogram

theorem mem_recordAll_key {vs : List Nat} {h : Histogram} {entry : Nat × Nat}
    (member : entry ∈ (vs.foldl record h).buckets) :
    (∃ v ∈ vs, bucketOf v = entry.1) ∨ ∃ old ∈ h.buckets, old.1 = entry.1 := by
  induction vs generalizing h with
  | nil => exact .inr ⟨entry, member, rfl⟩
  | cons v vs ih =>
    rcases ih member with ⟨w, inside, same⟩ | ⟨old, inside, same⟩
    · exact .inl ⟨w, List.mem_cons_of_mem v inside, same⟩
    · rcases Table.mem_alter inside with first | ⟨older, before, still⟩
      · exact .inl ⟨v, List.mem_cons_self, first.symm.trans same⟩
      · exact .inr ⟨older, before, still.trans same⟩

theorem highest_bucketOf (v : Nat) : Bucket.highest (bucketOf v) < 2 ^ 32 := by
  have last : Bucket.highest (Bucket.lowest Bucket.limit) < 2 ^ 32 := by decide
  exact Nat.lt_of_le_of_lt (Bucket.highest_mono (bucketOf_le_limit v)) last

end Histogram

namespace Ladder

/-- However it is decided where to stop and which quantile is due: a walk stops as often as it
likes at a bucket, and then goes on to the next. -/
inductive Walk : Cursor → Table Nat Nat → List Stop → Prop where
  | top {c : Cursor} : Walk c [] []
  | stop {c : Cursor} {rest : Table Nat Nat} {stops : List Stop} (quantile : Float)
      (further : Walk (c.past quantile) rest stops) : Walk c rest (c.stop :: stops)
  | enter {c : Cursor} {b n : Nat} {rest : Table Nat Nat} {stops : List Stop}
      (further : Walk (c.enter b n) rest stops) : Walk c ((b, n) :: rest) stops

/-- A walk through all buckets, from the first one on. -/
def Walks : Table Nat Nat → List Stop → Prop
  | [], stops => stops = []
  | (b, n) :: rest, stops => Walk (({} : Cursor).enter b n) rest stops

theorem climb_walk {reached : Nat → Float → Bool} {fuel : Nat} {c : Cursor}
    {rest : Table Nat Nat} {stops : List Stop}
    (further : Walk (climb reached fuel c).2 rest stops) :
    Walk c rest ((climb reached fuel c).1 ++ stops) := by
  induction fuel generalizing c with
  | zero => exact further
  | succ fuel ih =>
    unfold climb at further ⊢
    by_cases more : reached c.total c.quantile = true
    · simp only [if_pos more] at further ⊢
      exact .stop _ (ih further)
    · simp only [if_neg more] at further ⊢
      exact further

theorem stopsFrom_walk (reached : Nat → Float → Bool) (c : Cursor) (rest : Table Nat Nat) :
    Walk c rest (stopsFrom reached c rest) := by
  induction rest generalizing c with
  | nil => exact .stop 1 (.stop 1 .top)
  | cons first rest ih =>
    show Walk c (first :: rest) ((climb reached 1024 c).1 ++ _)
    exact climb_walk (.enter (ih _))

theorem stopsBy_walks (reached : Nat → Float → Bool) (t : Table Nat Nat) :
    Walks t (stopsBy reached t) := by
  cases t with
  | nil => rfl
  | cons first rest => exact stopsFrom_walk reached _ rest

/-- A row stands at a bucket and counts what is in the buckets up to there. -/
def Counts (total : Nat) (t : Table Nat Nat) (r : Rung) : Prop :=
  ∃ entry ∈ t, r.value = Bucket.highest entry.1 ∧
    r.total = total + t.spread.countP (· ≤ entry.1)

theorem counts_enter {c : Cursor} {b n : Nat} {rest : Table Nat Nat} {r : Rung}
    (sorted : Table.Sorted ((b, n) :: rest))
    (placed : r.value = (c.enter b n).value ∧ r.total = (c.enter b n).total ∨
      Counts (c.enter b n).total rest r) : Counts c.total ((b, n) :: rest) r := by
  have front := (List.pairwise_cons.mp sorted).1
  rcases placed with ⟨value, total⟩ | ⟨entry, inside, value, total⟩
  · refine ⟨(b, n), List.mem_cons_self, value, ?_⟩
    rw [Table.countP_spread, Table.countP_behind front, if_pos (Nat.le_refl b)]
    exact total
  · have below : b < entry.1 := Nat.compare_eq_lt.mp (front entry inside)
    refine ⟨entry, List.mem_cons_of_mem _ inside, value, ?_⟩
    rw [Table.countP_spread, if_pos (Nat.le_of_lt below), ← Nat.add_assoc]
    exact total

/-- The sum of the counts given so far and the one still to be given are the count of the cursor:
a stop moves the second into the first, and a bucket is added to the second. -/
theorem Walk.counts {c : Cursor} {t : Table Nat Nat} {stops : List Stop} (walk : Walk c t stops)
    (sorted : t.Sorted) {given : Nat} (kept : given + c.since = c.total) :
    ∀ r ∈ rungsFrom given stops,
      r.value = c.value ∧ r.total = c.total ∨ Counts c.total t r := by
  induction walk generalizing given with
  | top => exact nofun
  | @stop c rest stops quantile further ih =>
    intro r member
    rcases List.mem_cons.mp member with rfl | later
    · exact .inl ⟨rfl, kept⟩
    · exact ih sorted kept r later
  | @enter c b n rest stops further ih =>
    intro r member
    have entered : given + (c.enter b n).since = (c.enter b n).total := by
      show given + (c.since + n) = c.total + n
      omega
    exact .inr (counts_enter sorted (ih (List.pairwise_cons.mp sorted).2 entered r member))

theorem Walk.rises {c : Cursor} {t : Table Nat Nat} {stops : List Stop} (walk : Walk c t stops)
    (sorted : t.Sorted) (above : ∀ entry ∈ t, c.value ≤ Bucket.highest entry.1) {given : Nat}
    (kept : given + c.since = c.total) :
    (rungsFrom given stops).Pairwise fun r s => r.value ≤ s.value ∧ r.total ≤ s.total := by
  induction walk generalizing given with
  | top => exact .nil
  | @stop c rest stops quantile further ih =>
    have total : given + c.since + (c.past quantile).since = (c.past quantile).total := kept
    refine .cons ?_ (ih sorted above total)
    intro r member
    rcases further.counts sorted total r member with ⟨value, count⟩ | ⟨entry, inside, value, count⟩
    · rw [value, count]
      exact ⟨Nat.le_refl _, Nat.le_of_eq kept⟩
    · rw [value, count]
      exact ⟨above entry inside, Nat.le_trans (Nat.le_of_eq kept) (Nat.le_add_right _ _)⟩
  | @enter c b n rest stops further ih =>
    obtain ⟨front, tail⟩ := List.pairwise_cons.mp sorted
    apply ih tail
    · intro entry inside
      have below : b < entry.1 := Nat.compare_eq_lt.mp (front entry inside)
      exact Bucket.highest_mono (Nat.le_of_lt below)
    · show given + (c.since + n) = c.total + n
      omega

theorem Walks.counts {t : Table Nat Nat} {stops : List Stop} (walks : Walks t stops)
    (sorted : t.Sorted) : ∀ r ∈ rungsFrom 0 stops, Counts 0 t r := by
  cases t with
  | nil =>
    cases walks
    exact nofun
  | cons first rest =>
    intro r member
    have tail := (List.pairwise_cons.mp sorted).2
    exact counts_enter sorted (Walk.counts walks tail (Nat.zero_add _) r member)

theorem Walks.rises {t : Table Nat Nat} {stops : List Stop} (walks : Walks t stops)
    (sorted : t.Sorted) :
    (rungsFrom 0 stops).Pairwise fun r s => r.value ≤ s.value ∧ r.total ≤ s.total := by
  cases t with
  | nil =>
    cases walks
    exact .nil
  | cons first rest =>
    obtain ⟨front, tail⟩ := List.pairwise_cons.mp sorted
    refine Walk.rises walks tail ?_ (Nat.zero_add _)
    intro entry inside
    have below : first.1 < entry.1 := Nat.compare_eq_lt.mp (front entry inside)
    exact Bucket.highest_mono (Nat.le_of_lt below)

theorem rungsFrom_append (given : Nat) (stops more : List Stop) :
    rungsFrom given (stops ++ more) =
      rungsFrom given stops ++ rungsFrom (given + (stops.map Stop.since).sum) more := by
  induction stops generalizing given with
  | nil => rfl
  | cons s rest ih => simp only [List.cons_append, rungsFrom, ih, List.map_cons, List.sum_cons,
      Nat.add_assoc]

theorem climb_kept (reached : Nat → Float → Bool) (fuel : Nat) (c : Cursor) :
    ((climb reached fuel c).1.map Stop.since).sum + (climb reached fuel c).2.since = c.since ∧
      (climb reached fuel c).2.total = c.total := by
  induction fuel generalizing c with
  | zero => simp [climb]
  | succ fuel ih =>
    rw [climb]
    split
    · obtain ⟨since, total⟩ := ih (c.past (next c.quantile))
      simp only [List.map_cons, List.sum_cons, Nat.add_assoc]
      exact ⟨by rw [since]; rfl, total⟩
    · simp

theorem rungsFrom_getLast? (reached : Nat → Float → Bool) {c : Cursor} {b : Nat}
    (here : c.value = Bucket.highest b) (n : Nat) (rest : Table Nat Nat) {given : Nat}
    (kept : given + c.since = c.total) :
    (rungsFrom given (stopsFrom reached c rest)).getLast? =
      ((b, n) :: rest).getLast?.map fun entry =>
        ⟨Bucket.highest entry.1, 1, c.total + rest.total⟩ := by
  induction rest generalizing c b n given with
  | nil =>
    show some (⟨c.value, 1, given + c.since + 0⟩ : Rung) =
      some ⟨Bucket.highest b, 1, c.total + 0⟩
    rw [kept, here]
  | cons first rest ih =>
    obtain ⟨since, total⟩ := climb_kept reached 1024 c
    have split : stopsFrom reached c (first :: rest) = (climb reached 1024 c).1 ++
        stopsFrom reached ((climb reached 1024 c).2.enter first.1 first.2) rest := rfl
    rw [split, rungsFrom_append, List.getLast?_append,
      ih (b := first.1) rfl first.2 (by simp only [Cursor.enter]; omega), List.getLast?_cons_cons]
    have count : ((climb reached 1024 c).2.enter first.1 first.2).total + Table.total rest =
        c.total + Table.total (first :: rest) := by
      simp only [Cursor.enter, Table.total]
      omega
    rw [count, List.getLast?_cons]
    rfl

theorem rungs_getLast? (h : Histogram) :
    (rungs h).getLast? =
      if h.buckets = [] then none else some ⟨h.greatest, 1, h.total⟩ := by
  unfold rungs stops Histogram.greatest Histogram.total
  generalize (fun total quantile => _ : Nat → Float → Bool) = reached
  cases h.buckets with
  | nil => rfl
  | cons first rest =>
    have last := rungsFrom_getLast? reached (c := ({} : Cursor).enter first.1 first.2) rfl first.2
      rest (Nat.zero_add _)
    have total : (({} : Cursor).enter first.1 first.2).total = first.2 := Nat.zero_add _
    rw [List.getLast?_cons, total] at last
    rw [if_neg (List.cons_ne_nil first rest), List.getLast?_cons]
    exact last

def summary (h : Histogram) : String :=
  "#[Mean    = " ++ Decimal.field 12 3 (h.mean / 1000) ++ ", StdDeviation   = " ++
    Decimal.field 12 3 (h.deviation / 1000) ++ "]" ++ "\n" ++
    "#[Max     = " ++ Decimal.field 12 3 (Float.ofNat h.greatest / 1000)

theorem toText_rows (h : Histogram) :
    toText h = "       Value     Percentile TotalCount 1/(1-Percentile)" ++ "\n" ++ "\n" ++
      String.join ((rungs h).map fun r => r.toText ++ "\n") ++ summary h ++
        ", Total count    = " ++ Text.padLeft 12 ' ' (toString h.total) ++ "]" ++ "\n" := by
  have heading : String.intercalate " "
      [Text.padLeft 12 ' ' "Value", Text.padLeft 14 ' ' "Percentile",
        Text.padLeft 10 ' ' "TotalCount", Text.padLeft 14 ' ' "1/(1-Percentile)"] =
      "       Value     Percentile TotalCount 1/(1-Percentile)" := by decide
  unfold toText summary
  rw [heading]
  simp only [List.map_append, List.map_cons, List.map_nil, String.join_append, String.join_cons,
    String.join_nil, List.map_map, Function.comp_def, String.append_assoc, String.append_empty,
    String.empty_append]

end Ladder

namespace Group

/-- The rows of a ladder of these values: neither column falls, a row counts the values whose bucket
is not above that of its own value, which are never more than there are, and both numbers are
written exactly. -/
structure Tells (xs : List Float) (rungs : List Rung) : Prop where
  values : rungs.Pairwise fun r s => r.value ≤ s.value
  totals : rungs.Pairwise fun r s => r.total ≤ s.total
  counts : ∀ r ∈ rungs, r.total =
    xs.countP fun x => Histogram.bucketOf (micros x) ≤ Bucket.lowest r.value
  within : ∀ r ∈ rungs, r.total ≤ (xs.foldl push {}).count
  written : ∀ r ∈ rungs, r.toText =
    Text.padLeft 12 ' ' (Decimal.withPoint 3 r.value) ++ " " ++ Decimal.field 2 12 r.quantile ++
      " " ++ Text.padLeft 10 ' ' (toString r.total) ++
      if r.quantile < 1 then " " ++ Decimal.field 14 2 (1 / (1 - r.quantile)) else ""

theorem walks_tells {xs : List Float} {stops : List Stop}
    (walks : Ladder.Walks (xs.foldl push {}).histogram.buckets stops) :
    Tells xs (Ladder.rungsFrom 0 stops) := by
  have recorded := histogram_foldl_push xs {}
  have sorted : (xs.foldl push {}).histogram.buckets.Sorted := by
    rw [recorded]
    exact Histogram.sorted_recordAll Table.sorted_nil _
  have counted : (xs.foldl push {}).count = xs.length :=
    (count_foldl_push xs {}).trans (Nat.zero_add _)
  have place : ∀ r ∈ Ladder.rungsFrom 0 stops, ∃ v,
      r.value = Bucket.highest (Histogram.bucketOf v) ∧
        r.total =
          (xs.foldl push {}).histogram.buckets.spread.countP (· ≤ Histogram.bucketOf v) := by
    intro r member
    obtain ⟨entry, inside, value, count⟩ := walks.counts sorted r member
    rw [recorded] at inside
    rcases Histogram.mem_recordAll_key inside with ⟨v, -, same⟩ | ⟨old, nowhere, -⟩
    · rw [← same] at value count
      exact ⟨v, value, count.trans (Nat.zero_add _)⟩
    · cases nowhere
  have counts : ∀ r ∈ Ladder.rungsFrom 0 stops, r.total =
      xs.countP fun x => Histogram.bucketOf (micros x) ≤ Bucket.lowest r.value := by
    intro r member
    obtain ⟨v, value, count⟩ := place r member
    have own : Bucket.lowest r.value = Histogram.bucketOf v := by
      rw [value]
      exact Bucket.lowest_highest _
    have all := Histogram.spread_recordAll (xs.map micros) {}
    rw [count, own, recorded, all.countP_eq, List.countP_append, List.map_map, List.countP_map]
    rfl
  have rises := walks.rises sorted
  refine ⟨rises.imp And.left, rises.imp And.right, counts, ?_, ?_⟩
  · intro r member
    rw [counts r member, counted]
    exact List.countP_le_length
  · intro r member
    obtain ⟨v, value, -⟩ := place r member
    have small : r.value < 2 ^ 32 := value ▸ Histogram.highest_bucketOf v
    rw [Rung.toText, Decimal.field, Decimal.fixed_thousandths small]

/-- The ladder of a group. Its rows rise in both columns and count each value once, wherever the
walk through the buckets stops; the last one counts all of them, as does the line at the end. -/
theorem ladder_counts_every_value (xs : List Float) :
    Ladder.toText (xs.foldl push {}).histogram =
        "       Value     Percentile TotalCount 1/(1-Percentile)" ++ "\n" ++ "\n" ++
          String.join ((Ladder.rungs (xs.foldl push {}).histogram).map fun r => r.toText ++ "\n") ++
          Ladder.summary (xs.foldl push {}).histogram ++ ", Total count    = " ++
          Text.padLeft 12 ' ' (toString xs.length) ++ "]" ++ "\n" ∧
      Tells xs (Ladder.rungs (xs.foldl push {}).histogram) ∧
      (Ladder.rungs (xs.foldl push {}).histogram).getLast? =
        (if xs = [] then none else some ⟨(xs.foldl push {}).histogram.greatest, 1, xs.length⟩) ∧
      (∀ reached, Ladder.Walks (xs.foldl push {}).histogram.buckets
        (Ladder.stopsBy reached (xs.foldl push {}).histogram.buckets)) ∧
      ∀ stops, Ladder.Walks (xs.foldl push {}).histogram.buckets stops →
        Tells xs (Ladder.rungsFrom 0 stops) := by
  have total : (xs.foldl push {}).histogram.total = xs.length := by
    rw [histogram_foldl_push]
    exact (Histogram.total_recordAll _).trans (List.length_map _)
  refine ⟨?_, walks_tells (Ladder.stopsBy_walks _ _), ?_,
    fun reached => Ladder.stopsBy_walks reached _, fun _ => walks_tells⟩
  · rw [Ladder.toText_rows, total]
  · have empty : (xs.foldl push {}).histogram.buckets = [] ↔ xs = [] := by
      constructor
      · intro nothing
        rw [Histogram.total, nothing] at total
        exact List.length_eq_zero_iff.mp total.symm
      · rintro rfl
        rfl
    rw [Ladder.rungs_getLast?, total]
    simp only [empty]

def threeValues : List Float := [2.049, 0.5, 2.048]

theorem three_values_are_counted :
    Tells threeValues (Ladder.rungs (threeValues.foldl push {}).histogram) ∧
      (Ladder.rungs (threeValues.foldl push {}).histogram).getLast? = some ⟨2049, 1, 3⟩ := by
  have greatest : (threeValues.foldl push {}).histogram.greatest = 2049 := by decide +kernel
  obtain ⟨-, tells, last, -⟩ := ladder_counts_every_value threeValues
  rw [greatest] at last
  exact ⟨tells, last⟩

end Group
end Latency
end QueryBench
