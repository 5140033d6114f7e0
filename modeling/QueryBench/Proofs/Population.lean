import Mathlib
import QueryBench.Proofs.Sample
import QueryBench.Workload.Population

/- Drawing entities out of a population. A count that cannot be met is refused before a word is
   taken; any other gives so many entities, all different, and all where the count is the total. -/
namespace QueryBench

namespace Sample

theorem distinct_perm_range {total : Nat} {xs : List Nat} (distinct : Distinct total total xs) :
    xs.Perm (List.range total) := by
  have inside : xs ⊆ List.range total := by
    intro i member
    exact List.mem_range.mpr (distinct.below i member)
  apply (List.subperm_of_subset distinct.nodup inside).perm_of_length_le
  rw [List.length_range, distinct.length]

theorem checked_cases (entity : String) (count total : Nat) (k : Keystream) :
    (count < 1 ∧ checked entity count total k = (.error (.countTooSmall entity count), k)) ∨
    ((1 ≤ count ∧ total < count) ∧
      checked entity count total k = (.error (.countTooLarge entity count total), k)) ∨
    (1 ≤ count ∧ count ≤ total) ∧
      ∃ found k', checked entity count total k = (.ok found, k') ∧ Distinct count total found := by
  unfold checked
  by_cases none_ : count < 1
  · left
    exact ⟨none_, if_pos none_⟩
  · right
    have positive := Nat.le_of_not_lt none_
    rw [if_neg none_]
    by_cases large : total < count
    · left
      exact ⟨⟨positive, large⟩, if_pos large⟩
    · right
      have enough := Nat.le_of_not_lt large
      rw [if_neg large]
      exact ⟨⟨positive, enough⟩, _, _, rfl, indices_distinct enough k⟩

theorem nameOf_injective (stem : String) : Function.Injective (nameOf stem) := by
  intro i j same
  unfold nameOf at same
  exact Nat.repr_injective (String.append_right_inj _ |>.mp same)

/-- So many names, all different, of entities that there are. -/
structure Named (stem : String) (count total : Nat) (names : List String) : Prop where
  length : names.length = count
  nodup : names.Nodup
  known : ∀ name ∈ names, ∃ i < total, name = nameOf stem i

theorem distinct_named {count total : Nat} {found : List Nat} (stem : String)
    (distinct : Distinct count total found) : Named stem count total (found.map (nameOf stem)) where
  length := by rw [List.length_map, distinct.length]
  nodup := List.Nodup.map (nameOf_injective stem) distinct.nodup
  known := by
    intro name member
    obtain ⟨i, inside, rfl⟩ := List.mem_map.mp member
    exact ⟨i, distinct.below i inside, rfl⟩

theorem hosts_named {count total : Nat} (positive : 1 ≤ count) (enough : count ≤ total)
    (seed : UInt64) (k : Keystream) :
    ∃ hosts after, (Population.mk total seed k).hosts count = (.ok hosts, after) ∧
      Named "host" count total hosts := by
  rcases checked_cases "hosts" count total k with
    ⟨none_, _⟩ | ⟨⟨_, large⟩, _⟩ | ⟨_, found, k', drawn, distinct⟩
  · omega
  · omega
  · have named : (Population.mk total seed k).hosts count
        = (.ok (found.map (nameOf "host")), ⟨total, seed, k'⟩) := by
      simp only [Population.hosts, names, drawn]
      rfl
    exact ⟨_, _, named, distinct_named "host" distinct⟩

/-- Whatever the stream has come to, a sample is refused as too small just where its count is zero
and as too large just where it is more than there are, and a refusal leaves the stream where it is.
Any other sample has as many numbers as were asked for, all different and all below the total, so
one of the total is a permutation; and so many different hosts of the fleet are drawn with it. -/
theorem samples_are_distinct (entity : String) (count total : Nat) (k : Keystream) :
    ((checked entity count total k).1 = .error (.countTooSmall entity count) ↔ count < 1) ∧
    ((checked entity count total k).1 = .error (.countTooLarge entity count total) ↔
      total < count) ∧
    (∀ e, (checked entity count total k).1 = .error e → (checked entity count total k).2 = k) ∧
    (1 ≤ count → count ≤ total →
      (∃ found k', checked entity count total k = (.ok found, k') ∧ Distinct count total found ∧
        (count = total → found.Perm (List.range total))) ∧
      ∀ seed, ∃ hosts after, (Population.mk total seed k).hosts count = (.ok hosts, after) ∧
        Named "host" count total hosts) := by
  rcases checked_cases entity count total k with
    ⟨none_, refused⟩ | ⟨⟨positive, large⟩, refused⟩ |
    ⟨⟨positive, enough⟩, found, k', drawn, distinct⟩
  · have fits : ¬ total < count := by omega
    rw [refused]
    refine ⟨by simpa using none_, by simpa using fits, fun _ _ => rfl, ?_⟩
    intro positive
    omega
  · have some_ : ¬ count < 1 := by omega
    rw [refused]
    refine ⟨by simpa using some_, by simpa using large, fun _ _ => rfl, ?_⟩
    intro _ enough
    omega
  · have some_ : ¬ count < 1 := by omega
    have fits : ¬ total < count := by omega
    rw [drawn]
    refine ⟨by simpa using some_, by simpa using fits, by simp, ?_⟩
    intro _ _
    constructor
    · refine ⟨found, k', rfl, distinct, ?_⟩
      rintro rfl
      exact distinct_perm_range distinct
    · intro seed
      exact hosts_named positive enough seed k

theorem three_hosts_of_five_billion :
    1 ≤ 3 ∧ 3 ≤ 5000000000 ∧
    (checked "hosts" 3 5000000000 (Keystream.ofSeed 7)).1.toOption
      = some [151586804, 1535431416, 713210783] ∧
    ∃ found k', checked "hosts" 3 5000000000 (Keystream.ofSeed 7) = (.ok found, k') ∧
      Distinct 3 5000000000 found := by
  refine ⟨by decide, by decide, by decide +kernel, ?_⟩
  have sound := (samples_are_distinct "hosts" 3 5000000000 (Keystream.ofSeed 7)).2.2.2
  obtain ⟨⟨found, k', drawn, distinct, -⟩, -⟩ := sound (by decide) (by decide)
  exact ⟨found, k', drawn, distinct⟩

end Sample

end QueryBench
