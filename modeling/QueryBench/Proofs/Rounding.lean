import Mathlib
import QueryBench.Decimal.Fixed

/- Rounding to the nearest, halves to the even one. A quotient is rounded to a whole number, and a
   number to one with fifty-three binary digits, by leaving out the digits behind them. Neither ever
   swaps two numbers. -/
namespace QueryBench

namespace Decimal
variable {m n c d e : Nat}

theorem roundQuotient_le (positive : 0 < d) (below : n ≤ c * d) : roundQuotient n d ≤ c := by
  have parts := Nat.div_add_mod n d
  have whole : n / d ≤ c := Nat.div_le_of_le_mul (Nat.mul_comm c d ▸ below)
  have rest : n / d = c → n % d = 0 := by
    intro same
    rw [same, Nat.mul_comm] at parts
    omega
  unfold roundQuotient
  simp only
  split
  · exact whole
  · rcases Nat.lt_or_eq_of_le whole with less | same
    · split
      · exact less
      · omega
    · have none_ := rest same
      omega

theorem le_roundQuotient (positive : 0 < d) (above : c * d ≤ n) : c ≤ roundQuotient n d := by
  have whole : c ≤ n / d := (Nat.le_div_iff_mul_le positive).mpr above
  unfold roundQuotient
  simp only
  split
  · exact whole
  · split <;> omega

theorem roundQuotient_mono (positive : 0 < d) (positive' : 0 < e) (ordered : m * e ≤ n * d) :
    roundQuotient m d ≤ roundQuotient n e := by
  have first := Nat.div_add_mod m d
  have second := Nat.div_add_mod n e
  have whole : m / d ≤ n / e := by
    rw [Nat.le_div_iff_mul_le positive']
    refine Nat.le_of_mul_le_mul_right ?_ positive
    calc m / d * e * d = m / d * d * e := Nat.mul_right_comm ..
      _ ≤ m * e := Nat.mul_le_mul_right e (Nat.div_mul_le_self m d)
      _ ≤ n * d := ordered
  rcases Nat.lt_or_eq_of_le whole with less | same
  · have above : m ≤ (m / d + 1) * d :=
      Nat.le_of_lt (Nat.lt_mul_of_div_lt (Nat.lt_succ_self _) positive)
    calc roundQuotient m d ≤ m / d + 1 := roundQuotient_le positive above
      _ ≤ n / e := less
      _ ≤ roundQuotient n e := le_roundQuotient positive' (Nat.div_mul_le_self n e)
  · have rests : m % d * e ≤ n % e * d := by
      rw [← first, ← second, ← same, Nat.add_mul, Nat.add_mul, Nat.mul_right_comm,
        Nat.mul_right_comm e] at ordered
      rw [Nat.mul_comm d e] at ordered
      exact Nat.le_of_add_le_add_left ordered
    have half : d ≤ 2 * (m % d) → e ≤ 2 * (n % e) := by
      intro reached
      refine Nat.le_of_mul_le_mul_right ?_ positive
      calc e * d ≤ e * (2 * (m % d)) := Nat.mul_le_mul_left e reached
        _ = 2 * (m % d * e) := by ring
        _ ≤ 2 * (n % e * d) := Nat.mul_le_mul_left 2 rests
        _ = 2 * (n % e) * d := by ring
    have larger : d < 2 * (m % d) → e < 2 * (n % e) := by
      intro passed
      refine Nat.lt_of_mul_lt_mul_right (a := d) ?_
      calc e * d < e * (2 * (m % d)) := Nat.mul_lt_mul_of_pos_left passed positive'
        _ = 2 * (m % d * e) := by ring
        _ ≤ 2 * (n % e * d) := Nat.mul_le_mul_left 2 rests
        _ = 2 * (n % e) * d := by ring
    unfold roundQuotient
    simp only [same]
    split
    · exact le_roundQuotient positive' (Nat.div_mul_le_self n e)
    · split
      · rename_i passed
        rw [if_neg (Nat.lt_asymm (larger passed)), if_pos (larger passed)]
      · have reached := half (by omega)
        rw [if_neg (Nat.not_lt.mpr reached)]
        split <;> omega

theorem roundQuotient_scale (positive : 0 < d) (positive' : 0 < c) :
    roundQuotient (n * c) (d * c) = roundQuotient n d := by
  have scaled := Nat.mul_pos positive positive'
  have same : n * c * d = n * (d * c) := by ring
  exact Nat.le_antisymm (roundQuotient_mono scaled positive (Nat.le_of_eq same))
    (roundQuotient_mono positive scaled (Nat.le_of_eq same.symm))

theorem roundQuotient_error (positive : 0 < d) :
    2 * (roundQuotient n d * d) ≤ 2 * n + d ∧ 2 * n ≤ 2 * (roundQuotient n d * d) + d := by
  have parts := Nat.div_add_mod n d
  have bound := Nat.mod_lt n positive
  rw [Nat.mul_comm] at parts
  unfold roundQuotient
  simp only
  split
  · omega
  · split
    · rw [Nat.add_mul, Nat.one_mul]
      omega
    · rcases Nat.mod_two_eq_zero_or_one (n / d) with even | odd
      · rw [even, Nat.add_zero]
        omega
      · rw [odd, Nat.add_mul, Nat.one_mul]
        omega

theorem roundQuotient_near (positive : 0 < d) (below : 2 * n < 2 * (c * d) + d)
    (above : 2 * (c * d) < 2 * n + d) : roundQuotient n d = c := by
  obtain ⟨low, high⟩ := @roundQuotient_error n d positive
  rcases Nat.lt_trichotomy (roundQuotient n d) c with less | same | more
  · have next : (roundQuotient n d + 1) * d ≤ c * d := Nat.mul_le_mul_right d less
    rw [Nat.add_mul, Nat.one_mul] at next
    omega
  · exact same
  · have next : (c + 1) * d ≤ roundQuotient n d * d := Nat.mul_le_mul_right d more
    rw [Nat.add_mul, Nat.one_mul] at next
    omega

end Decimal

namespace Binary64
open Decimal Float.Model Float.Model.UnpackedFloat

/-- How many binary digits a number has behind the first fifty-three. -/
def excess (n : Nat) : Nat := n.log2 - 52

/-- The nearest number whose digits behind the first fifty-three are zeros. -/
def nearest (n : Nat) : Nat := roundQuotient n (2 ^ excess n) * 2 ^ excess n

theorem log2_scale {n : Nat} (positive : n ≠ 0) (k : Nat) : (n * 2 ^ k).log2 = n.log2 + k := by
  induction k with
  | zero => rw [Nat.pow_zero, Nat.mul_one, Nat.add_zero]
  | succ k ih =>
    have scaled : n * 2 ^ k ≠ 0 := Nat.mul_ne_zero positive (Nat.two_pow_pos k).ne'
    rw [Nat.pow_succ, ← Nat.mul_assoc, Nat.mul_comm, Nat.log2_two_mul scaled, ih]
    rfl

theorem excess_mono {m n : Nat} (ordered : m ≤ n) : excess m ≤ excess n := by
  have logs : m.log2 ≤ n.log2 := by
    rw [Nat.log2_eq_log_two, Nat.log2_eq_log_two]
    exact Nat.log_mono_right ordered
  unfold excess
  omega

theorem lt_excess (n : Nat) : n < 2 ^ 53 * 2 ^ excess n := by
  have digits : n.log2 + 1 ≤ 53 + excess n := by
    unfold excess
    omega
  rw [← Nat.pow_add]
  exact Nat.lt_of_lt_of_le Nat.lt_log2_self (Nat.pow_le_pow_right (by decide) digits)

theorem excess_le {n : Nat} (large : 0 < excess n) : 2 ^ 52 * 2 ^ excess n ≤ n := by
  have digits : 52 + excess n = n.log2 := by
    unfold excess at large ⊢
    omega
  rw [← Nat.pow_add, digits]
  apply Nat.log2_self_le
  rintro rfl
  cases large

theorem rounded_le (n : Nat) : roundQuotient n (2 ^ excess n) ≤ 2 ^ 53 :=
  roundQuotient_le (Nat.two_pow_pos _) (Nat.le_of_lt (lt_excess n))

theorem le_rounded {n : Nat} (large : 0 < excess n) : 2 ^ 52 ≤ roundQuotient n (2 ^ excess n) :=
  le_roundQuotient (Nat.two_pow_pos _) (excess_le large)

/-- Either two numbers are rounded alike, or a power of two lies between what they are rounded to. -/
theorem nearest_mono {m n : Nat} (ordered : m ≤ n) : nearest m ≤ nearest n := by
  rcases Nat.lt_or_eq_of_le (excess_mono ordered) with less | same
  · calc nearest m ≤ 2 ^ 53 * 2 ^ excess m := Nat.mul_le_mul_right _ (rounded_le m)
      _ = 2 ^ 52 * 2 ^ (excess m + 1) := by ring
      _ ≤ 2 ^ 52 * 2 ^ excess n := Nat.mul_le_mul_left _ (Nat.pow_le_pow_right (by decide) less)
      _ ≤ nearest n := Nat.mul_le_mul_right _ (le_rounded (by omega))
  · unfold nearest
    rw [same]
    exact Nat.mul_le_mul_right _
      (roundQuotient_mono (Nat.two_pow_pos _) (Nat.two_pow_pos _) (Nat.mul_le_mul_right _ ordered))

theorem half_le_nearest (n : Nat) : n ≤ 2 * nearest n := by
  rcases Nat.eq_zero_or_pos (excess n) with none_ | large
  · have whole : n ≤ nearest n := by
      rw [nearest, none_, Nat.pow_zero, Nat.mul_one]
      exact le_roundQuotient Nat.one_pos (Nat.le_of_eq (Nat.mul_one n))
    omega
  · calc n ≤ 2 ^ 53 * 2 ^ excess n := Nat.le_of_lt (lt_excess n)
      _ = 2 * (2 ^ 52 * 2 ^ excess n) := by ring
      _ ≤ 2 * nearest n := Nat.mul_le_mul_left 2 (Nat.mul_le_mul_right _ (le_rounded large))

theorem nearest_whole {n : Nat} (u : Nat) (small : n < 2 ^ 53) :
    nearest (n * 2 ^ u) = n * 2 ^ u := by
  by_cases zero : n = 0
  · rw [zero, Nat.zero_mul]
    decide
  · have digits : n.log2 < 53 := (Nat.log2_lt zero).mpr small
    have behind : excess (n * 2 ^ u) ≤ u := by
      rw [excess, log2_scale zero]
      omega
    have split : n * 2 ^ u = n * 2 ^ (u - excess (n * 2 ^ u)) * 2 ^ excess (n * 2 ^ u) := by
      rw [Nat.mul_assoc, ← Nat.pow_add, Nat.sub_add_cancel behind]
    have whole : roundQuotient (n * 2 ^ u) (2 ^ excess (n * 2 ^ u)) =
        n * 2 ^ (u - excess (n * 2 ^ u)) :=
      Nat.le_antisymm (roundQuotient_le (Nat.two_pow_pos _) (Nat.le_of_eq split))
        (le_roundQuotient (Nat.two_pow_pos _) (Nat.le_of_eq split.symm))
    rw [nearest, whole, ← split]

/-- A mantissa with its two further bits stands for a quotient: the first says whether what is left
comes up to a half, the second whether it is anything else than a half or nothing. -/
structure Stands (em : ExtendedMantissa) (n d : Nat) : Prop where
  whole : em.mantissa = n / d
  half : em.roundBit = true ↔ d ≤ 2 * (n % d)
  rest : em.stickyBit = true ↔ n % d ≠ 0 ∧ 2 * (n % d) ≠ d

theorem stands_exact (n : Nat) : Stands (.ofMantissaAndAccuracy n .exact) n 1 := by
  constructor
  · exact (Nat.div_one n).symm
  · simp [ExtendedMantissa.ofMantissaAndAccuracy, Nat.mod_one]
  · simp [ExtendedMantissa.ofMantissaAndAccuracy, Nat.mod_one]

theorem stands_quotient (n : Nat) {d : Nat} (positive : 0 < d) :
    Stands (.ofMantissaAndAccuracy (n / d) (accuracyOfFraction (n % d) d)) n d := by
  unfold accuracyOfFraction
  by_cases none_ : n % d = 0
  · rw [if_pos none_]
    exact ⟨rfl, iff_of_false nofun (by omega), iff_of_false nofun (by omega)⟩
  · rw [if_neg none_]
    rcases Nat.lt_trichotomy (2 * (n % d)) d with less | same | more
    · rw [Nat.compare_eq_lt.mpr less]
      exact ⟨rfl, iff_of_false nofun (by omega), iff_of_true rfl (by omega)⟩
    · rw [Nat.compare_eq_eq.mpr same]
      exact ⟨rfl, iff_of_true rfl (by omega), iff_of_false nofun (by omega)⟩
    · rw [Nat.compare_eq_gt.mpr more]
      exact ⟨rfl, iff_of_true rfl (by omega), iff_of_true rfl (by omega)⟩

theorem Stands.shiftRightOne {em : ExtendedMantissa} {n d : Nat} (stands : Stands em n d)
    (positive : 0 < d) : Stands em.shiftRightOne n (d * 2) := by
  obtain ⟨whole, half, rest⟩ := stands
  have left : n % (d * 2) = n % d + d * (n / d % 2) := Nat.mod_mul
  have bound := Nat.mod_lt n positive
  constructor
  · rw [ExtendedMantissa.shiftRightOne, whole, Nat.div_div_eq_div_mul]
  · rw [left, ExtendedMantissa.shiftRightOne, whole]
    rcases Nat.mod_two_eq_zero_or_one (n / d) with even | odd
    · simp [even]
      omega
    · simp [odd]
      omega
  · rw [left, ExtendedMantissa.shiftRightOne]
    simp only [Bool.or_eq_true, half, rest]
    rcases Nat.mod_two_eq_zero_or_one (n / d) with even | odd
    · simp only [even]
      omega
    · simp only [odd]
      omega

theorem Stands.shiftRight {em : ExtendedMantissa} {n d : Nat} (stands : Stands em n d)
    (positive : 0 < d) (k : Nat) : Stands (em >>> k) n (d * 2 ^ k) := by
  induction k with
  | zero =>
    rw [Nat.pow_zero, Nat.mul_one]
    exact stands
  | succ k ih =>
    have next := ih.shiftRightOne (Nat.mul_pos positive (Nat.two_pow_pos k))
    rw [Nat.mul_assoc, ← Nat.pow_succ] at next
    exact next

theorem Stands.rounded {em : ExtendedMantissa} {n d : Nat} (stands : Stands em n d) :
    em.roundedMantissa = roundQuotient n d := by
  obtain ⟨mantissa, round, sticky⟩ := em
  obtain ⟨whole, half, rest⟩ := stands
  simp only at whole half rest
  subst whole
  unfold roundQuotient
  cases round with
  | false =>
    have below : 2 * (n % d) < d := by simpa using half
    rw [if_pos below]
    cases sticky <;> rfl
  | true =>
    have reached : d ≤ 2 * (n % d) := half.mp rfl
    rw [if_neg (Nat.not_lt.mpr reached)]
    cases sticky with
    | false =>
      have other : ¬ (n % d ≠ 0 ∧ 2 * (n % d) ≠ d) := fun both => nomatch rest.mpr both
      have equal : ¬ d < 2 * (n % d) := by omega
      rw [if_neg equal]
      rfl
    | true =>
      have past : d < 2 * (n % d) := by
        have other := (rest.mp rfl).2
        omega
      rw [if_pos past]
      rfl

theorem targetExponent_eq (position : Int) :
    Format.binary64.targetExponent position = max (position - 53) (-1074) := rfl

/-- A mantissa in the one form that a number has: all fifty-three digits, except at the bottom. -/
structure Canonical (m : Nat) (e : Int) : Prop where
  small : m < 2 ^ 53
  low : -1074 ≤ e
  full : e = -1074 ∨ 2 ^ 52 ≤ m

theorem Canonical.position {m : Nat} {e : Int} (canonical : Canonical m e) :
    ∃ u : Nat, e = u - 1074 := by
  have low := canonical.low
  exact ⟨(e + 1074).toNat, by omega⟩

/-- A mantissa that fits is left alone, and one that was rounded up to one digit too many ends in a
zero, which goes. -/
theorem carry {r t : Nat} (fits : r ≤ 2 ^ 53) (full : t = 0 ∨ 2 ^ 52 ≤ r) :
    ∃ m u : Nat, shiftToTargetExponent Format.binary64 r (t - 1074) .exact =
        (⟨m, false, false⟩, (u : Int) - 1074) ∧
      Canonical m (u - 1074) ∧ m * 2 ^ u = r * 2 ^ t := by
  rcases Nat.lt_or_eq_of_le fits with small | carried
  · have digits : r.log2 ≤ 52 := by
      by_cases zero : r = 0
      · rw [zero]
        decide
      · have less := (Nat.log2_lt zero).mpr small
        omega
    have still : (Format.binary64.targetExponent (totalExponent r (t - 1074)) -
        ((t : Int) - 1074)).toNat = 0 := by
      rw [targetExponent_eq, totalExponent]
      omega
    refine ⟨r, t, ?_, ⟨small, by omega, by omega⟩, rfl⟩
    rw [shiftToTargetExponent, shiftToExponent, still]
    exact congrArg (Prod.mk _) (Int.add_zero _)
  · have once : (Format.binary64.targetExponent (totalExponent r (t - 1074)) -
        ((t : Int) - 1074)).toNat = 1 := by
      rw [targetExponent_eq, totalExponent, carried, Nat.log2_two_pow]
      omega
    refine ⟨2 ^ 52, t + 1, ?_, ⟨by decide, by omega, .inr (Nat.le_refl _)⟩, by rw [carried]; ring⟩
    rw [shiftToTargetExponent, shiftToExponent, once, carried]
    congr 1
    omega

theorem rounded_carry (s : Sign) {m r t : Nat} {e : Int} {accuracy : Accuracy}
    {em : ExtendedMantissa}
    (shifted : shiftToTargetExponent Format.binary64 m e accuracy = (em, (t : Int) - 1074))
    (mantissa : em.roundedMantissa = r) (fits : r ≤ 2 ^ 53) (full : t = 0 ∨ 2 ^ 52 ≤ r) :
    ∃ n u : Nat, roundWithAccuracy Format.binary64 s m e accuracy =
        (if zero : n = 0 then .zero s
          else .finite s n (u - 1074) (Nat.pos_of_ne_zero zero)) ∧
      Canonical n (u - 1074) ∧ n * 2 ^ u = r * 2 ^ t := by
  obtain ⟨n, u, carried, canonical, value⟩ := carry fits full
  refine ⟨n, u, ?_, canonical, value⟩
  rw [roundWithAccuracy, shifted]
  simp only
  rw [mantissa, carried]

section Scaled
variable {m n a b : Nat} (positive : m ≠ 0) (scaled : m * 2 ^ a = n * 2 ^ b)
  (fits : a ≤ excess n + b)
include scaled fits

theorem rounded_scaled :
    roundQuotient m (2 ^ (excess n + b - a)) = roundQuotient n (2 ^ excess n) := by
  rw [← roundQuotient_scale (Nat.two_pow_pos _) (Nat.two_pow_pos a), scaled, ← Nat.pow_add,
    Nat.sub_add_cancel fits, Nat.pow_add]
  exact roundQuotient_scale (Nat.two_pow_pos _) (Nat.two_pow_pos b)

include positive

theorem shift_scaled :
    ∃ em, shiftToTargetExponent Format.binary64 m ((a : Int) - b - 1074) .exact =
        (em, (excess n : Int) - 1074) ∧
      em.roundedMantissa = roundQuotient n (2 ^ excess n) := by
  have nonzero : n ≠ 0 := by
    rintro rfl
    rw [Nat.zero_mul] at scaled
    exact positive ((Nat.mul_eq_zero.mp scaled).resolve_right (Nat.two_pow_pos a).ne')
  have digits : m.log2 + a = n.log2 + b := by
    rw [← log2_scale positive, scaled, log2_scale nonzero]
  have amount : (Format.binary64.targetExponent (totalExponent m ((a : Int) - b - 1074)) -
      ((a : Int) - b - 1074)).toNat = excess n + b - a := by
    rw [targetExponent_eq, totalExponent]
    unfold excess at fits ⊢
    omega
  have place : (a : Int) - b - 1074 + ((excess n + b - a : Nat) : Int) = (excess n : Int) - 1074 := by
    omega
  have stands := (stands_exact m).shiftRight Nat.one_pos (excess n + b - a)
  rw [shiftToTargetExponent, shiftToExponent, amount, place]
  refine ⟨_, rfl, ?_⟩
  rw [stands.rounded, Nat.one_mul]
  exact rounded_scaled scaled fits

/-- The exact number is `m` and so many powers of two, or `n` in units of the least power of two
there is. Rounding it comes to rounding the count of units. -/
theorem round_nearest (s : Sign) :
    (nearest n = 0 ∧
      roundWithAccuracy Format.binary64 s m ((a : Int) - b - 1074) .exact = .zero s) ∨
    ∃ (r u : Nat) (some_ : 0 < r),
      roundWithAccuracy Format.binary64 s m ((a : Int) - b - 1074) .exact =
        .finite s r (u - 1074) some_ ∧ Canonical r (u - 1074) ∧ r * 2 ^ u = nearest n := by
  have full : excess n = 0 ∨ 2 ^ 52 ≤ roundQuotient n (2 ^ excess n) := by
    rcases Nat.eq_zero_or_pos (excess n) with none_ | large
    · exact .inl none_
    · exact .inr (le_rounded large)
  obtain ⟨em, shifted, mantissa⟩ := shift_scaled positive scaled fits
  obtain ⟨r, u, rounded, canonical, value⟩ :=
    rounded_carry s shifted mantissa (rounded_le n) full
  by_cases zero : r = 0
  · left
    rw [rounded, dif_pos zero]
    rw [zero, Nat.zero_mul] at value
    exact ⟨value.symm, rfl⟩
  · right
    exact ⟨r, u, Nat.pos_of_ne_zero zero, by rw [rounded, dif_neg zero], canonical, value⟩

end Scaled

end Binary64
end QueryBench
