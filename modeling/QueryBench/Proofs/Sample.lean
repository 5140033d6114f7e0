import Mathlib.Algebra.Group.Nat.Defs
import QueryBench.Random.Sample

/- What a sample is made of: as many numbers as were asked for, all different, all below the total.
   Each of the three methods keeps this while it grows or reorders its sample. -/
namespace QueryBench

namespace Keystream

theorem next_lt (width : Width) (k : Keystream) : (k.next width).1 < 2 ^ width.bits := by
  cases width with
  | short => exact k.next32.1.toNat_lt
  | long => exact k.next64.1.toNat_lt

/-- A search ends with a number that some word was accepted for, or with the one kept for the case
that no word is. -/
theorem search_found {α : Type} {P : α → Prop} {width : Width} {accept : Nat → Option α}
    (otherwise : Unit → α)
    (accepted : ∀ word a, word < 2 ^ width.bits → accept word = some a → P a)
    (kept : P (otherwise ())) (fuel : Nat) (k : Keystream) :
    P (k.search width accept otherwise fuel).1 := by
  induction fuel generalizing k with
  | zero => exact kept
  | succ fuel ih =>
    rw [search]
    cases found : accept (k.next width).1 with
    | some a => exact accepted _ a (k.next_lt width) found
    | none => exact ih _

end Keystream

namespace Draw

theorem ofWord?_lt {bits range zone word n : Nat} (positive : 0 < range)
    (fits : word < 2 ^ bits) (taken : ofWord? bits range zone word = some n) : n < range := by
  simp only [ofWord?] at taken
  split at taken
  · cases taken
    rw [Nat.shiftRight_eq_div_pow]
    exact Nat.div_lt_of_lt_mul (Nat.mul_lt_mul_of_pos_right fits positive)
  · cases taken

theorem below_lt (width : Width) {range : Nat} (positive : 0 < range) (k : Keystream) :
    (below width range k).1 < range :=
  Keystream.search_found (P := (· < range)) _ (fun _ _ fits taken => ofWord?_lt positive fits taken)
    positive _ k

end Draw

namespace Sample

/-- So many different numbers below a bound. -/
structure Distinct (count bound : Nat) (xs : List Nat) : Prop where
  length : xs.length = count
  nodup : xs.Nodup
  below : ∀ i ∈ xs, i < bound

theorem distinct_perm {count bound : Nat} {xs ys : List Nat} (same : xs.Perm ys)
    (distinct : Distinct count bound ys) : Distinct count bound xs where
  length := same.length_eq.trans distinct.length
  nodup := same.nodup_iff.mpr distinct.nodup
  below i member := distinct.below i (same.mem_iff.mp member)

theorem insertBefore_perm (old new : Nat) (xs : List Nat) :
    (insertBefore old new xs).Perm (new :: xs) := by
  induction xs with
  | nil => exact .refl _
  | cons x xs ih =>
    rw [insertBefore]
    split
    · exact .refl _
    · exact (ih.cons x).trans (.swap new x xs)

theorem join_distinct {count top t : Nat} {chosen : List Nat} (ordered : Bool)
    (distinct : Distinct count top chosen) (drawn : t < top + 1) :
    Distinct (count + 1) (top + 1) (join ordered chosen top t) := by
  have grown : ∀ {n : Nat}, n ∉ chosen → n < top + 1 →
      Distinct (count + 1) (top + 1) (n :: chosen) := by
    intro n fresh bound
    refine ⟨by simp [distinct.length], List.nodup_cons.mpr ⟨fresh, distinct.nodup⟩, ?_⟩
    intro i member
    rcases List.mem_cons.mp member with rfl | member
    · exact bound
    · exact Nat.lt_succ_of_lt (distinct.below i member)
  have last : ∀ n : Nat, (chosen ++ [n]).Perm (n :: chosen) := fun n => 
    List.perm_append_comm
  rw [join]
  by_cases seen : t ∈ chosen
  · have fresh : top ∉ chosen := fun member => Nat.lt_irrefl _ (distinct.below top member)
    have joined := grown fresh (Nat.lt_succ_self top)
    rw [if_pos seen]
    cases ordered with
    | true => exact distinct_perm (insertBefore_perm t top chosen) joined
    | false => exact distinct_perm (last top) joined
  · rw [if_neg seen]
    exact distinct_perm (last t) (grown seen drawn)

theorem grow_distinct (ordered : Bool) (count : Nat) {size top : Nat} {chosen : List Nat}
    (distinct : Distinct size top chosen) (k : Keystream) :
    Distinct (size + count) (top + count) (grow ordered count top chosen k).1 := by
  induction count generalizing size top chosen k with
  | zero => exact distinct
  | succ count ih =>
    have drawn := Draw.below_lt .short (Nat.succ_pos top) k
    rw [grow]
    cases taken : Draw.below .short (top + 1) k with
    | mk t rest =>
      rw [taken] at drawn
      have more := ih (join_distinct ordered distinct drawn) rest
      rwa [Nat.succ_add_eq_add_succ, Nat.succ_add_eq_add_succ] at more

theorem swapIfInBounds_perm (xs : Array Nat) (i j : Nat) :
    (xs.swapIfInBounds i j).toList.Perm xs.toList := by
  unfold Array.swapIfInBounds
  split
  · split
    · exact (Array.swap_perm _ _).toList
    · exact .refl _
  · exact .refl _

theorem shuffle_perm (top : Nat) (xs : Array Nat) (k : Keystream) :
    (shuffle top xs k).1.toList.Perm xs.toList := by
  induction top generalizing xs k with
  | zero => exact .refl _
  | succ top ih => exact (ih _ _).trans (swapIfInBounds_perm xs _ _)

theorem deal_perm (count place : Nat) (xs : Array Nat) (k : Keystream) :
    (deal count place xs k).1.toList.Perm xs.toList := by
  induction count generalizing place xs k with
  | zero => exact .refl _
  | succ count ih => exact (ih _ _ _).trans (swapIfInBounds_perm xs _ _)

theorem incremental_distinct {count total : Nat} (enough : count ≤ total) (k : Keystream) :
    Distinct count total (incremental count total k).1 := by
  have empty : Distinct 0 (total - count) [] := ⟨rfl, .nil, by simp⟩
  have grown := grow_distinct (decide (count < shuffledFrom)) count empty k
  rw [Nat.zero_add, Nat.sub_add_cancel enough] at grown
  simp only [incremental]
  split
  · exact grown
  · exact distinct_perm (shuffle_perm _ _ _) grown

theorem inPlace_distinct {count total : Nat} (enough : count ≤ total) (k : Keystream) :
    Distinct count total (inPlace count total k).1 := by
  have dealt := deal_perm count 0 (Array.range total) k
  rw [Array.toList_range] at dealt
  refine ⟨?_, ?_, ?_⟩
  · rw [inPlace, List.length_take, dealt.length_eq, List.length_range, Nat.min_eq_left enough]
  · exact (dealt.nodup_iff.mpr List.nodup_range).sublist (List.take_sublist _ _)
  · intro i member
    exact List.mem_range.mp (dealt.mem_iff.mp (List.mem_of_mem_take member))

theorem leastUnseen_spec (seen : List Nat) :
    leastUnseen seen ∉ seen ∧ leastUnseen seen ≤ seen.length := by
  rw [leastUnseen]
  cases found : (List.range (seen.length + 1)).find? (· ∉ seen) with
  | some n =>
    have inside := List.mem_range.mp (List.mem_of_find?_eq_some found)
    exact ⟨by simpa using List.find?_some found, Nat.lt_succ_iff.mp inside⟩
  | none =>
    have all : ∀ n ∈ List.range (seen.length + 1), n ∈ seen := by
      simpa using found
    have size := List.nodup_range.length_le_of_subset all
    rw [List.length_range] at size
    exact absurd size (Nat.not_succ_le_self _)

theorem pick_distinct (width : Width) (count : Nat) {total size : Nat} {seen : List Nat}
    (distinct : Distinct size total seen) (enough : size + count ≤ total) (k : Keystream) :
    Distinct (size + count) total (pick width total count seen k).1 := by
  induction count generalizing size seen k with
  | zero => exact distinct_perm seen.reverse_perm distinct
  | succ count ih =>
    have positive : 0 < total := by omega
    have accepted : ∀ word t, word < 2 ^ width.bits →
        (Draw.ofWord? width.bits total (Draw.multipleZone width.bits total) word).filter
          (· ∉ seen) = some t → t < total ∧ t ∉ seen := by
      intro word t fits taken
      obtain ⟨drawn, fresh⟩ := Option.filter_eq_some_iff.mp taken
      exact ⟨Draw.ofWord?_lt positive fits drawn, by simpa using fresh⟩
    obtain ⟨fresh, few⟩ := leastUnseen_spec seen
    rw [distinct.length] at few
    have next := Keystream.search_found (P := fun t => t < total ∧ t ∉ seen)
      (fun _ => leastUnseen seen) accepted ⟨by omega, fresh⟩ Keystream.period k
    simp only [pick]
    generalize k.search width _ (fun _ => leastUnseen seen) Keystream.period = drawn at next ⊢
    have joined : Distinct (size + 1) total (drawn.1 :: seen) :=
      ⟨by simp [distinct.length], List.nodup_cons.mpr ⟨next.2, distinct.nodup⟩,
        List.forall_mem_cons.mpr ⟨next.1, distinct.below⟩⟩
    rw [← Nat.succ_add_eq_add_succ]
    exact ih joined (by omega) _

/-- Whichever method is the cheapest, the sample is one. -/
theorem indices_distinct {count total : Nat} (enough : count ≤ total) (k : Keystream) :
    Distinct count total (indices count total k).1 := by
  rw [indices]
  split
  · exact incremental_distinct enough k
  · exact inPlace_distinct enough k
  · rename_i width _
    have empty : Distinct 0 total [] := ⟨rfl, .nil, by simp⟩
    have picked := pick_distinct width count empty ((Nat.zero_add count).symm ▸ enough) k
    rwa [Nat.zero_add] at picked

end Sample

end QueryBench
