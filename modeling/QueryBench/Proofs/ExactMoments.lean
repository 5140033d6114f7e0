import Mathlib.Algebra.BigOperators.Group.List.Basic
import Mathlib.Order.Bounds.Basic
import QueryBench.Proofs.Reordering

/- Moments in exact arithmetic. The recurrence moves the mean between its two uses of a value, and
   what it adds up is still the sum of the squared distances from the mean of all values: around any
   point this sum is a quadratic in the point, and its coefficients grow by one value at a time. -/
namespace QueryBench.Latency

namespace Moments

/-- The squared distances of numbers from a point, summed up. -/
def scatter (xs : List ℚ) (c : ℚ) : ℚ := (xs.map fun x => (x - c) ^ 2).sum

theorem scatter_concat (xs : List ℚ) (v c : ℚ) :
    scatter (xs ++ [v]) c = scatter xs c + (v - c) ^ 2 := by
  simp only [scatter, List.map_append, List.map_cons, List.map_nil, List.sum_append,
    List.sum_singleton]

/-- Another point changes the sum by terms that only see how many numbers there are and their sum. -/
theorem scatter_move (xs : List ℚ) (c d : ℚ) :
    scatter xs d = scatter xs c + 2 * (c - d) * (xs.sum - xs.length * c) +
      xs.length * (c - d) ^ 2 := by
  induction xs with
  | nil => simp [scatter]
  | cons x xs ih =>
    have first : ∀ e, scatter (x :: xs) e = (x - e) ^ 2 + scatter xs e := fun _ => rfl
    rw [first, first, ih, List.sum_cons, List.length_cons]
    push_cast
    ring

theorem scatter_nonneg (xs : List ℚ) (c : ℚ) : 0 ≤ scatter xs c := by
  apply List.sum_nonneg
  intro square member
  obtain ⟨x, -, rfl⟩ := List.mem_map.mp member
  exact sq_nonneg _

/-- The running numbers behind a sequence are those of the definitions. -/
structure Exact (xs : List ℚ) (m : Moments ℚ) : Prop where
  count : m.count = xs.length
  sum : m.sum = xs.sum
  mean : xs.length * m.mean = xs.sum
  m2 : m.m2 = scatter xs m.mean

theorem exact_empty : Exact [] empty := by
  refine ⟨rfl, rfl, ?_, rfl⟩
  exact zero_mul _

/-- The distances from the old and from the new mean, multiplied, are what the scatter grows by when
its point moves along. -/
theorem exact_push {xs : List ℚ} {m : Moments ℚ} (exact_ : Exact xs m) (v : ℚ) :
    Exact (xs ++ [v]) (m.push v) := by
  obtain ⟨count, sum, mean, m2⟩ := exact_
  have positive : (xs.length : ℚ) + 1 ≠ 0 := by positivity
  have moved : (m.push v).mean = m.mean + (v - m.mean) / (xs.length + 1) := by
    simp only [push, count, Nat.cast_add, Nat.cast_one]
  constructor
  · simp only [push, count, List.length_append, List.length_singleton]
  · simp only [push, sum, List.sum_append, List.sum_singleton]
  · rw [moved, List.length_append, List.sum_append, List.length_singleton, List.sum_singleton,
      ← mean]
    push_cast
    field_simp
    ring
  · have grown : (m.push v).m2 = m.m2 + (v - m.mean) * (v - (m.push v).mean) := rfl
    rw [grown, m2, scatter_concat, scatter_move xs m.mean (m.push v).mean, ← mean, moved]
    field_simp
    ring

theorem exact_foldl (xs : List ℚ) : Exact xs (xs.foldl push empty) := by
  induction xs using List.reverseRecOn with
  | nil => exact exact_empty
  | append_singleton xs v ih =>
    rw [List.foldl_append]
    exact exact_push ih v

theorem extreme_foldl {seen : Moments ℚ → Option ℚ} (best : ℚ → ℚ → ℚ)
    {Extreme : Set ℚ → ℚ → Prop} (start : seen empty = none)
    (next : ∀ m v, seen (m.push v) = some ((seen m).elim v (best v)))
    (single : ∀ v, Extreme {v} v)
    (more : ∀ s e v, Extreme s e → Extreme (insert v s) (best v e)) {xs : List ℚ}
    (some_ : xs ≠ []) :
    ∃ e, seen (xs.foldl push empty) = some e ∧ Extreme {x | x ∈ xs} e := by
  induction xs using List.reverseRecOn with
  | nil => exact absurd rfl some_
  | append_singleton xs v ih =>
    have members : {x | x ∈ xs ++ [v]} = insert v {x | x ∈ xs} := by
      ext x
      simp [or_comm]
    rw [List.foldl_append, List.foldl_cons, List.foldl_nil, next, members]
    by_cases first : xs = []
    · subst first
      rw [List.foldl_nil, start]
      refine ⟨v, rfl, ?_⟩
      simpa using single v
    · obtain ⟨e, known, extreme⟩ := ih first
      rw [known]
      exact ⟨best v e, rfl, more _ e v extreme⟩

theorem least_foldl {xs : List ℚ} (some_ : xs ≠ []) :
    ∃ l, (xs.foldl push empty).least? = some l ∧ IsLeast {x | x ∈ xs} l := by
  refine extreme_foldl min rfl ?_ (fun _ => isLeast_singleton)
    (fun _ _ v least => least.insert v) some_
  intro m v
  show lesser m.least? v = _
  cases m.least? with
  | none => exact lesser_none v
  | some l => rw [lesser_some, min_comm, Option.elim_some]

theorem greatest_foldl {xs : List ℚ} (some_ : xs ≠ []) :
    ∃ g, (xs.foldl push empty).greatest? = some g ∧ IsGreatest {x | x ∈ xs} g := by
  refine extreme_foldl max rfl ?_ (fun _ => isGreatest_singleton)
    (fun _ _ v greatest => greatest.insert v) some_
  intro m v
  show greater m.greatest? v = _
  cases m.greatest? with
  | none => exact greater_none v
  | some g => rw [greater_some, max_comm, Option.elim_some]

/-- What is told of moments, before the root of the variance is taken. -/
structure Readings (α : Type) where
  count : Nat
  least : α
  greatest : α
  mean : α
  variance : α
  sum : α
  deriving DecidableEq, Repr

/-- Of no values, zero is told throughout. Values that compare to nothing leave the extremes at the
ends of the line. -/
def readings {α : Type} [NatCast α] [Div α] (bottom top : α) (m : Moments α) : Readings α :=
  { count := m.count
    least := if m.count = 0 then (0 : Nat) else m.least?.getD top
    greatest := if m.count = 0 then (0 : Nat) else m.greatest?.getD bottom
    mean := m.mean
    variance := m.variance
    sum := m.sum }

/-- The readings are those of the definitions, with the mean squared distance from the mean as
variance. -/
structure Readings.Describe (r : Readings ℚ) (xs : List ℚ) : Prop where
  count : r.count = xs.length
  sum : r.sum = xs.sum
  least : IsLeast {x | x ∈ xs} r.least
  greatest : IsGreatest {x | x ∈ xs} r.greatest
  mean : r.mean = r.sum / r.count
  variance : r.variance = (xs.map fun x => (x - r.mean) ^ 2).sum / r.count

theorem readings_describe {xs : List ℚ} (some_ : xs ≠ []) (bottom top : ℚ) :
    ((xs.foldl push empty).readings bottom top).Describe xs := by
  obtain ⟨count, sum, mean, m2⟩ := exact_foldl xs
  have many : (xs.foldl push empty).count ≠ 0 := by
    rw [count]
    exact fun none_ => some_ (List.length_eq_zero_iff.mp none_)
  have length : (xs.length : ℚ) ≠ 0 := by
    rw [← count]
    exact_mod_cast many
  constructor
  · exact count
  · exact sum
  · obtain ⟨l, known, least⟩ := least_foldl some_
    simpa only [readings, if_neg many, known, Option.getD_some] using least
  · obtain ⟨g, known, greatest⟩ := greatest_foldl some_
    simpa only [readings, if_neg many, known, Option.getD_some] using greatest
  · simp only [readings, sum, count, ← mean]
    exact (mul_div_cancel_left₀ _ length).symm
  · simp only [readings, variance, if_neg many, m2]
    rfl

end Moments

namespace Group

theorem moments_foldl_push (vs : List Float) (g : Group) :
    (vs.foldl push g).moments = vs.foldl Moments.push g.moments := by
  induction vs generalizing g with
  | nil => rfl
  | cons v vs ih => exact ih (g.push v)

/-- A group keeps its moments by a recurrence that does not ask for its arithmetic, and tells their
readings. In exact arithmetic these are what they are called: count, sum, least and greatest value and
mean, and the recurrence has added up the squared distances from the mean, so that the deviation is
the root of the variance. Of no values everything that is told is zero. -/
theorem readings_are_exact :
    (∀ (vs : List Float) (ps : List Float),
      let g := vs.foldl push {}
      let r := (vs.foldl Moments.push .empty).readings (-1 / 0) (1 / 0)
      g.summary ps = ⟨r.count, r.least, r.greatest, r.mean, r.variance.sqrt, r.sum,
        ps.map fun p => (p, g.percentile p)⟩) ∧
    (∀ (xs : List ℚ) (bottom top : ℚ), xs ≠ [] →
      let m := xs.foldl Moments.push .empty
      (m.readings bottom top).Describe xs ∧
        m.m2 = (xs.map fun x => (x - m.mean) ^ 2).sum ∧ 0 ≤ m.m2) ∧
    (∀ bottom top : ℚ, Moments.empty.readings bottom top = ⟨0, 0, 0, 0, 0, 0⟩) ∧
    ∀ ps : List Float, ({} : Group).summary ps = ⟨0, 0, 0, 0, 0, 0, ps.map fun p => (p, 0)⟩ := by
  refine ⟨?_, ?_, ?_, ?_⟩
  · intro vs ps
    show summary _ ps = _
    rw [← moments_foldl_push vs {}]
    rfl
  · intro xs bottom top some_
    obtain ⟨-, -, -, m2⟩ := Moments.exact_foldl xs
    refine ⟨Moments.readings_describe some_ bottom top, m2, ?_⟩
    rw [m2]
    exact Moments.scatter_nonneg xs _
  · intro bottom top
    rfl
  · intro ps
    have root : (0 : Float).sqrt = 0 := by decide +kernel
    have share : Float.ofNat 0 / 1000 = 0 := by decide +kernel
    show Summary.mk 0 0 0 0 (0 : Float).sqrt 0 (ps.map fun p => (p, Float.ofNat 0 / 1000)) = _
    rw [root, share]

def eightValues : List ℚ := [2, 4, 4, 4, 5, 5, 7, 9]

theorem eight_values_are_exact :
    eightValues ≠ [] ∧ (eightValues.foldl Moments.push .empty).readings 0 0 = ⟨8, 2, 9, 5, 4, 40⟩ ∧
      ((eightValues.foldl Moments.push .empty).readings 0 0).Describe eightValues := by
  have some_ : eightValues ≠ [] := by decide
  exact ⟨some_, by decide +kernel, (readings_are_exact.2.1 eightValues 0 0 some_).1⟩

end Group

end QueryBench.Latency
