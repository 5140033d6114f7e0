import QueryBench.Proofs.FloatUnits

/- Whole numbers as floating point numbers, and a thousandth of them. The first are exact and the
   second nearly so: with three decimal places the digits of the whole number are written. -/
namespace QueryBench

namespace Binary64
open Decimal Float.Model Float.Model.UnpackedFloat

/-- A number above zero that is so many units, neither more nor less. -/
def Reads (x : Float) (n : Nat) : Prop :=
  ∃ (m u : Nat) (some_ : 0 < m), x.toModel.unpack = .finite .positive m (u - 1074) some_ ∧
    m * 2 ^ u = n

section Whole
variable {n : Nat} (some_ : 0 < n) (small : n < 2 ^ 53)

section Exact
variable {x : Float} {m a b : Nat} (positive : m ≠ 0)
  (scaled : m * 2 ^ a = n * 2 ^ fraction * 2 ^ b) (fits : a ≤ excess (n * 2 ^ fraction) + b)
include small positive scaled fits

theorem reads_whole
    (read : x.toModel.unpack = UnpackedFloat.unpack .binary64 (UnpackedFloat.pack .binary64
      (roundWithAccuracy .binary64 .positive m ((a : Int) - b - 1074) .exact))) :
    Reads x (n * 2 ^ fraction) := by
  have kept := nearest_whole fraction small
  rcases round_nearest positive scaled fits .positive with
    ⟨none_, -⟩ | ⟨r, u, more, rounded, canonical, value⟩
  · rw [kept] at none_
    rw [none_, Nat.zero_mul] at scaled
    exact absurd (Nat.mul_eq_zero.mp scaled) (not_or.mpr ⟨positive, (Nat.two_pow_pos a).ne'⟩)
  · rw [kept] at value
    have reach : 2 ^ u < 2 ^ (53 + fraction) := by
      calc 2 ^ u ≤ r * 2 ^ u := Nat.le_mul_of_pos_left _ more
        _ = n * 2 ^ fraction := value
        _ < 2 ^ 53 * 2 ^ fraction := Nat.mul_lt_mul_of_pos_right small (Nat.two_pow_pos _)
        _ = 2 ^ (53 + fraction) := (Nat.pow_add ..).symm
    have bound := (Nat.pow_lt_pow_iff_right (by decide)).mp reach
    have places := fraction_eq
    rw [rounded, unpack_pack .positive more canonical, if_pos (by omega)] at read
    exact ⟨r, u, more, read, value⟩

end Exact

include some_ small

theorem toFloat_reads : Reads n.toUInt64.toFloat (n * 2 ^ fraction) := by
  have places := fraction_eq
  have word : n.toUInt64.toNat = n := by
    show n % 2 ^ 64 = n
    omega
  have digits : n.log2 < 53 := (Nat.log2_lt some_.ne').mpr small
  have target : Format.binary64.targetExponent (totalExponent n 0) = (n.log2 : Int) - 52 := by
    rw [targetExponent_eq, totalExponent]
    omega
  have shift : (0 - ((n.log2 : Int) - 52)).toNat = 52 - n.log2 := by omega
  have place : (0 : Int) - ((52 - n.log2 : Nat) : Int) =
      ((fraction - (52 - n.log2) : Nat) : Int) - (0 : Nat) - 1074 := by omega
  have read : n.toUInt64.toFloat.toModel.unpack =
      UnpackedFloat.unpack .binary64 (UnpackedFloat.pack .binary64
        (UnpackedFloat.ofNat .binary64 n.toUInt64.toNat)) := rfl
  unfold UnpackedFloat.ofNat UnpackedFloat.ofInt UnpackedFloat.normalize at read
  rw [word, Int.compare_eq_gt.mpr (by omega)] at read
  simp only [Int.toNat_natCast, UnpackedFloat.round, target, decreaseExponent, shift, place] at read
  refine reads_whole small ?_ ?_ ?_ read
  · exact (Nat.shiftLeft_pos_iff.mpr some_).ne'
  · rw [Nat.shiftLeft_eq, Nat.mul_assoc, ← Nat.pow_add, Nat.add_sub_cancel' (by omega),
      Nat.pow_zero, Nat.mul_one]
  · rw [excess, log2_scale some_.ne']
    omega

theorem ofNat_reads : Reads (Float.ofNat n) (n * 2 ^ fraction) := by
  have once : Float.ofNat n = n.toUInt64.toFloat * Float.ofBits 0x3ff0000000000000 := by
    show Float.ofScientific n false 0 = _
    rw [Float.ofScientific, dif_pos ⟨small, by decide⟩]
    rfl
  have one : (Float.ofBits 0x3ff0000000000000).toModel.unpack =
      .finite .positive (2 ^ 52) (-52) (by decide) := rfl
  obtain ⟨m, u, positive, read, value⟩ := toFloat_reads some_ small
  have product : (Float.ofNat n).toModel.unpack =
      UnpackedFloat.unpack .binary64 (UnpackedFloat.pack .binary64
        (UnpackedFloat.mul .binary64 n.toUInt64.toFloat.toModel.unpack
          (Float.ofBits 0x3ff0000000000000).toModel.unpack)) := by
    rw [once]
    rfl
  have place : (u : Int) - 1074 + -52 = u - (52 : Nat) - 1074 := by omega
  rw [read, one, UnpackedFloat.mul, place] at product
  refine reads_whole small ?_ ?_ ?_ product
  · exact (Nat.mul_pos positive (by decide)).ne'
  · rw [← value]
    ring
  · have reach : m.log2 + u = n.log2 + fraction := by
      rw [← log2_scale positive.ne', value, log2_scale some_.ne']
    rw [excess, log2_scale some_.ne']
    omega

end Whole

theorem whole_place {n m u : Nat} (some_ : 0 < n) (small : n < 2 ^ 32)
    (canonical : Canonical m (u - 1074)) (value : m * 2 ^ u = n * 2 ^ fraction) :
    2 ^ 52 ≤ m ∧ 53 ≤ u ∧ u + 20 < fraction := by
  have places := fraction_eq
  have low : 2 ^ fraction < 2 ^ (53 + u) := by
    calc 2 ^ fraction ≤ n * 2 ^ fraction := Nat.le_mul_of_pos_left _ some_
      _ = m * 2 ^ u := value.symm
      _ < 2 ^ 53 * 2 ^ u := Nat.mul_lt_mul_of_pos_right canonical.small (Nat.two_pow_pos u)
      _ = 2 ^ (53 + u) := (Nat.pow_add ..).symm
  have above := (Nat.pow_lt_pow_iff_right (by decide)).mp low
  have full : 2 ^ 52 ≤ m := canonical.full.resolve_left (by omega)
  have high : 2 ^ (52 + u) < 2 ^ (32 + fraction) := by
    calc 2 ^ (52 + u) = 2 ^ 52 * 2 ^ u := Nat.pow_add ..
      _ ≤ m * 2 ^ u := Nat.mul_le_mul_right _ full
      _ = n * 2 ^ fraction := value
      _ < 2 ^ 32 * 2 ^ fraction := Nat.mul_lt_mul_of_pos_right small (Nat.two_pow_pos _)
      _ = 2 ^ (32 + fraction) := (Nat.pow_add ..).symm
  have below := (Nat.pow_lt_pow_iff_right (by decide)).mp high
  exact ⟨full, by omega, by omega⟩

section Quotient
variable {n d : Nat} (positive : 0 < d) (some_ : 2 ^ 52 ≤ n / d) (short : n / d < 2 ^ 54)
include positive some_ short

theorem quotient_rounded (s : Sign) (t : Nat) :
    ∃ k ≤ 1, ∃ r u : Nat,
      roundWithAccuracy Format.binary64 s (n / d) ((t : Int) - 1074)
          (accuracyOfFraction (n % d) d) =
        (if zero : r = 0 then .zero s
          else .finite s r (u - 1074) (Nat.pos_of_ne_zero zero)) ∧
      Canonical r (u - 1074) ∧ r * 2 ^ u = roundQuotient n (d * 2 ^ k) * 2 ^ (t + k) := by
  have nonzero : n / d ≠ 0 := by omega
  have least : 52 ≤ (n / d).log2 := (Nat.le_log2 nonzero).mpr some_
  have most : (n / d).log2 < 54 := (Nat.log2_lt nonzero).mpr short
  have low : 2 ^ (n / d).log2 ≤ n / d := Nat.log2_self_le nonzero
  have high : n / d < 2 ^ ((n / d).log2 + 1) := Nat.lt_log2_self
  obtain ⟨k, digits⟩ : ∃ k, (n / d).log2 = 52 + k := ⟨(n / d).log2 - 52, by omega⟩
  rw [digits] at low high
  have amount : (Format.binary64.targetExponent (totalExponent (n / d) ((t : Int) - 1074)) -
      ((t : Int) - 1074)).toNat = k := by
    rw [targetExponent_eq, totalExponent, digits]
    omega
  have shifted : shiftToTargetExponent Format.binary64 (n / d) ((t : Int) - 1074)
      (accuracyOfFraction (n % d) d) =
        (ExtendedMantissa.ofMantissaAndAccuracy (n / d) (accuracyOfFraction (n % d) d) >>> k,
          ((t + k : Nat) : Int) - 1074) := by
    rw [shiftToTargetExponent, shiftToExponent, amount]
    congr 1
    omega
  have stands := (stands_quotient n positive).shiftRight positive k
  have divisor : 0 < d * 2 ^ k := Nat.mul_pos positive (Nat.two_pow_pos k)
  have fits : roundQuotient n (d * 2 ^ k) ≤ 2 ^ 53 := by
    apply roundQuotient_le divisor
    calc n ≤ d * (n / d + 1) := Nat.le_of_lt (Nat.lt_mul_div_succ n positive)
      _ ≤ d * 2 ^ (52 + k + 1) := Nat.mul_le_mul_left d high
      _ = 2 ^ 53 * (d * 2 ^ k) := by ring
  have full : 2 ^ 52 ≤ roundQuotient n (d * 2 ^ k) := by
    apply le_roundQuotient divisor
    calc 2 ^ 52 * (d * 2 ^ k) = d * 2 ^ (52 + k) := by ring
      _ ≤ d * (n / d) := Nat.mul_le_mul_left d low
      _ ≤ n := Nat.mul_div_le n d
  exact ⟨k, by omega, rounded_carry s shifted stands.rounded fits (.inr full)⟩

end Quotient

theorem thousand_read : (1000 : Float).toModel.unpack =
    .finite .positive (1000 * 2 ^ 43) (-43) (by decide) := rfl

section Thousandth
variable {x : Float} {m w : Nat} (full : 2 ^ 52 ≤ m) (small : m < 2 ^ 53)

include full small in
theorem thousandth_unpack {positive : 0 < m}
    (read : x.toModel.unpack = .finite .positive m ((w + 53 : Nat) - 1074) positive) :
    (x / 1000).toModel.unpack = UnpackedFloat.unpack .binary64 (UnpackedFloat.pack .binary64
      (roundWithAccuracy .binary64 .positive (m * 2 ^ 53 / (1000 * 2 ^ 43))
        ((w + 43 : Nat) - 1074)
        (accuracyOfFraction (m * 2 ^ 53 % (1000 * 2 ^ 43)) (1000 * 2 ^ 43)))) := by
  have digits : m.log2 = 52 := (Nat.log2_eq_iff positive.ne').mpr ⟨full, small⟩
  have thousand : (1000 * 2 ^ 43 : Nat).log2 = 52 :=
    (Nat.log2_eq_iff (by decide)).mpr ⟨by decide, by decide⟩
  have target : min (((w + 53 : Nat) : Int) - 1074 - -43)
      (Format.binary64.targetExponent (totalExponent m (((w + 53 : Nat) : Int) - 1074) -
        totalExponent (1000 * 2 ^ 43) (-43))) = ((w + 43 : Nat) : Int) - 1074 := by
    rw [targetExponent_eq, totalExponent, totalExponent, digits, thousand]
    omega
  have shift : (((w + 53 : Nat) : Int) - 1074 - -43 -
      (((w + 43 : Nat) : Int) - 1074)).toNat = 53 := by omega
  have divided : (x / 1000).toModel.unpack =
      UnpackedFloat.unpack .binary64 (UnpackedFloat.pack .binary64
        (UnpackedFloat.div .binary64 x.toModel.unpack (1000 : Float).toModel.unpack)) := rfl
  rw [read, thousand_read, UnpackedFloat.div] at divided
  simp only [divCore, target, shift, Nat.shiftLeft_eq] at divided
  exact divided

theorem thousandth_near {k r v : Nat} (room : w + 54 < fraction) (few : k ≤ 1)
    (value : r * 2 ^ v = roundQuotient (m * 2 ^ 53) (1000 * 2 ^ 43 * 2 ^ k) * 2 ^ (w + 43 + k)) :
    2 * (1000 * (r * 2 ^ v)) < 2 * (m * 2 ^ (w + 53)) + 2 ^ fraction ∧
      2 * (m * 2 ^ (w + 53)) < 2 * (1000 * (r * 2 ^ v)) + 2 ^ fraction := by
  obtain ⟨near, near'⟩ := @roundQuotient_error (m * 2 ^ 53) (1000 * 2 ^ 43 * 2 ^ k)
    (Nat.mul_pos (by decide) (Nat.two_pow_pos k))
  generalize roundQuotient (m * 2 ^ 53) (1000 * 2 ^ 43 * 2 ^ k) = q at near near' value
  have whole : 2 * (m * 2 ^ 53) * 2 ^ w = 2 * (m * 2 ^ (w + 53)) := by ring
  have thousandfold : 2 * (q * (1000 * 2 ^ 43 * 2 ^ k)) * 2 ^ w = 2 * (1000 * (r * 2 ^ v)) := by
    rw [value]
    ring
  have half : 1000 * 2 ^ 43 * 2 ^ k * 2 ^ w < 2 ^ fraction := by
    have size : 1000 * 2 ^ 43 < 2 ^ 53 := by decide
    calc 1000 * 2 ^ 43 * 2 ^ k * 2 ^ w < 2 ^ 53 * 2 ^ k * 2 ^ w :=
          Nat.mul_lt_mul_of_pos_right (Nat.mul_lt_mul_of_pos_right size (Nat.two_pow_pos k))
            (Nat.two_pow_pos w)
      _ = 2 ^ (53 + k + w) := by ring
      _ ≤ 2 ^ fraction := Nat.pow_le_pow_right (by decide) (by omega)
  have close := Nat.mul_le_mul_right (2 ^ w) near
  have close' := Nat.mul_le_mul_right (2 ^ w) near'
  rw [Nat.add_mul, whole, thousandfold] at close close'
  exact ⟨by omega, by omega⟩

end Thousandth

/-- A thousandth of a whole number, off by less than what another half of a thousandth adds. -/
theorem thousandths_read {n : Nat} (some_ : 0 < n) (small : n < 2 ^ 32) :
    ∃ (r v : Nat) (more : 0 < r),
      (Float.ofNat n / 1000).toModel.unpack = .finite .positive r (v - 1074) more ∧
      2 * (1000 * (r * 2 ^ v)) < 2 * (n * 2 ^ fraction) + 2 ^ fraction ∧
      2 * (n * 2 ^ fraction) < 2 * (1000 * (r * 2 ^ v)) + 2 ^ fraction := by
  have places := fraction_eq
  obtain ⟨m, u, positive, read, value⟩ := ofNat_reads some_ (Nat.lt_trans small (by decide))
  obtain ⟨canonical, -⟩ := unpack_canonical read
  obtain ⟨full, low, high⟩ := whole_place some_ small canonical value
  obtain ⟨w, rfl⟩ : ∃ w, u = w + 53 := ⟨u - 53, by omega⟩
  have few := canonical.small
  have least : 2 ^ 52 ≤ m * 2 ^ 53 / (1000 * 2 ^ 43) :=
    (Nat.le_div_iff_mul_le (by decide)).mpr (by omega)
  have most : m * 2 ^ 53 / (1000 * 2 ^ 43) < 2 ^ 54 := Nat.div_lt_of_lt_mul (by omega)
  obtain ⟨k, one, r, v, rounded, canonical', value'⟩ :=
    quotient_rounded (by decide) least most .positive (w + 43)
  obtain ⟨below, above⟩ := thousandth_near (by omega) one value'
  rw [value] at below above
  have unit : 2 ^ fraction ≤ n * 2 ^ fraction := Nat.le_mul_of_pos_left _ some_
  have more : 0 < r := by
    rcases Nat.eq_zero_or_pos r with rfl | more
    · rw [Nat.zero_mul] at above
      omega
    · exact more
  have bound : n * 2 ^ fraction < 2 ^ 32 * 2 ^ fraction :=
    Nat.mul_lt_mul_of_pos_right small (Nat.two_pow_pos _)
  have reach : 2 ^ v < 2 ^ (33 + fraction) := by
    calc 2 ^ v ≤ r * 2 ^ v := Nat.le_mul_of_pos_left _ more
      _ < 2 ^ 33 * 2 ^ fraction := by omega
      _ = 2 ^ (33 + fraction) := (Nat.pow_add ..).symm
  have inside := (Nat.pow_lt_pow_iff_right (by decide)).mp reach
  refine ⟨r, v, more, ?_, below, above⟩
  rw [thousandth_unpack full few read, rounded, dif_neg more.ne']
  exact (unpack_pack .positive more canonical').trans (if_pos (by omega))

end Binary64

/-- A count of thousandths below `2 ^ 32` is written digit by digit. -/
theorem Decimal.fixed_thousandths {n : Nat} (small : n < 2 ^ 32) :
    fixed 3 (Float.ofNat n / 1000) = withPoint 3 n := by
  rcases Nat.eq_zero_or_pos n with rfl | some_
  · decide +kernel
  · obtain ⟨r, v, more, read, below, above⟩ := Binary64.thousandths_read some_ small
    obtain ⟨c, positive, mantissa, unit⟩ := Binary64.ratio_scaled r v Binary64.fraction
    rw [Binary64.fraction_eq] at mantissa unit
    have divisor : 0 < (Binary64.ratio r (v - 1074)).2 := by
      have power := Nat.two_pow_pos Binary64.fraction
      rw [← unit] at power
      exact (Nat.mul_pos_iff_of_pos_right positive).mp power
    have thousandfold :
        (Binary64.ratio r (v - 1074)).1 * powerOfTen 3 * c = 1000 * (r * 2 ^ v) := by
      rw [← mantissa, Nat.mul_right_comm, Nat.mul_comm]
      rfl
    have rounded : roundQuotient ((Binary64.ratio r (v - 1074)).1 * powerOfTen 3)
        (Binary64.ratio r (v - 1074)).2 = n := by
      rw [← roundQuotient_scale divisor positive, thousandfold, unit]
      exact roundQuotient_near (Nat.two_pow_pos _) below above
    rw [fixed, Binary64.ofFloat_eq, read]
    exact congrArg (withPoint 3) rounded

end QueryBench
