import QueryBench.Proofs.Rounding

/- Floating point numbers by their units. A unit is the least number above zero, and a finite number
   that is not negative is so many of them. So to compare such numbers is to compare counts of units,
   and to round one is to round a count; the arithmetic takes its numbers from the same bits. -/
namespace QueryBench.Binary64
open Decimal Float.Model Float.Model.UnpackedFloat

def isNegative : Sign → Bool
  | .negative => true
  | .positive => false

def ofUnpacked : UnpackedFloat → Binary64
  | .notANumber => .nan
  | .infinity s => .infinity (isNegative s)
  | .zero s => .finite (isNegative s) 0 (-1074)
  | .finite s m e _ => .finite (isNegative s) m e

section Fields
variable (bits : UInt64)

theorem mantissa_field :
    (@unpackMantissa .binary64 bits.toBitVec).toNat = (bits &&& 0xfffffffffffff).toNat := by
  rw [UInt64.toNat_and]
  show _ = bits.toNat &&& (2 ^ 52 - 1)
  rw [Nat.and_two_pow_sub_one_eq_mod, unpackMantissa_def, BitVec.extractLsb'_toNat]
  rfl

theorem exponent_field :
    (@unpackExponent .binary64 bits.toBitVec).toNat =
      ((bits >>> 52) &&& 0x7ff).toNat := by
  rw [UInt64.toNat_and, UInt64.toNat_shiftRight]
  show _ = bits.toNat >>> 52 &&& (2 ^ 11 - 1)
  rw [Nat.and_two_pow_sub_one_eq_mod, unpackExponent_def, BitVec.extractLsb'_toNat]
  rfl

theorem sign_field :
    isNegative (.ofBitVec (@unpackSign .binary64 bits.toBitVec)) =
      decide (bits >>> 63 = 1) := by
  have field : (@unpackSign .binary64 bits.toBitVec).toNat = (bits >>> 63).toNat := by
    have one : bits.toNat >>> 63 < 2 := by
      rw [Nat.shiftRight_eq_div_pow]
      exact Nat.div_lt_of_lt_mul bits.toNat_lt
    rw [UInt64.toNat_shiftRight, unpackSign_def, BitVec.extractLsb'_toNat]
    exact Nat.mod_eq_of_lt one
  by_cases negative : bits >>> 63 = 1
  · have set : @unpackSign .binary64 bits.toBitVec = 1#1 := by
      rw [← BitVec.toNat_inj, field, negative]
      rfl
    rw [set, decide_eq_true negative]
    rfl
  · have clear : @unpackSign .binary64 bits.toBitVec = 0#1 := by
      rcases BitVec.eq_zero_or_eq_one (@unpackSign .binary64 bits.toBitVec) with zero | one
      · exact zero
      · rw [one] at field
        exact absurd (UInt64.toNat_inj.mp field.symm) negative
    rw [clear, decide_eq_false negative]
    rfl

end Fields

theorem ofBits_eq (bits : UInt64) :
    ofBits bits = ofUnpacked (UnpackedFloat.unpack .binary64 bits.toBitVec) := by
  have ones : @unpackExponent .binary64 bits.toBitVec = -1#11 ↔
      ((bits >>> 52) &&& 0x7ff).toNat = 0x7ff := by
    rw [← exponent_field, ← BitVec.toNat_inj]
    rfl
  have zeros : @unpackExponent .binary64 bits.toBitVec = 0#11 ↔
      ((bits >>> 52) &&& 0x7ff).toNat = 0 := by
    rw [← exponent_field, ← BitVec.toNat_inj]
    rfl
  have none_ : @unpackMantissa .binary64 bits.toBitVec = 0#52 ↔
      (bits &&& 0xfffffffffffff).toNat = 0 := by
    rw [← mantissa_field, ← BitVec.toNat_inj]
    rfl
  have whole : (1#1 ++ @unpackMantissa .binary64 bits.toBitVec).toNat =
      hiddenBit + (bits &&& 0xfffffffffffff).toNat := by
    rw [BitVec.toNat_append, ← mantissa_field]
    exact (Nat.shiftLeft_add_eq_or_of_lt (BitVec.isLt _) _).symm
  unfold ofBits UnpackedFloat.unpack
  simp only [ones, zeros, none_]
  split
  · split
    · rw [ofUnpacked, sign_field]
    · rfl
  · split
    · rename_i bottom
      split
      · rename_i zero
        rw [zero, ofUnpacked, sign_field]
      · rw [ofUnpacked, sign_field, exponent_field, mantissa_field, bottom]
        rfl
    · rw [ofUnpacked, sign_field, exponent_field, whole]
      congr 1

theorem ofFloat_eq (x : Float) : ofFloat x = ofUnpacked x.toModel.unpack := ofBits_eq _

theorem ofBits_canonical {bits : UInt64} {negative : Bool} {m : Nat} {e : Int}
    (read : ofBits bits = .finite negative m e) : Canonical m e ∧ e ≤ 971 := by
  have fraction : (bits &&& 0xfffffffffffff).toNat < 2 ^ 52 := by
    rw [← mantissa_field]
    exact BitVec.isLt _
  have exponent : ((bits >>> 52) &&& 0x7ff).toNat < 2 ^ 11 := by
    rw [← exponent_field]
    exact BitVec.isLt _
  unfold ofBits at read
  simp only at read
  split at read
  · split at read <;> cases read
  · split at read
    · cases read
      exact ⟨⟨by omega, by omega, .inl rfl⟩, by omega⟩
    · cases read
      unfold hiddenBit
      exact ⟨⟨by omega, by omega, .inr (by omega)⟩, by omega⟩

theorem unpack_normal (s : Sign) {m u : Nat} (some_ : 0 < m) (small : m < 2 ^ 53)
    (full : 2 ^ 52 ≤ m) (inside : u ≤ 2045) :
    UnpackedFloat.unpack .binary64 (packComponents .binary64 s (.ofNat 11 (u + 1)) (.ofNat 52 m)) =
      .finite s m (u - 1074) some_ := by
  have field : (BitVec.ofNat 11 (u + 1)).toNat = u + 1 := by
    rw [BitVec.toNat_ofNat]
    exact Nat.mod_eq_of_lt (by omega)
  have ones : BitVec.ofNat 11 (u + 1) ≠ -1#11 := by
    intro same
    have top : u + 1 = 2047 := field.symm.trans (congrArg BitVec.toNat same)
    omega
  have zeros : BitVec.ofNat 11 (u + 1) ≠ 0#11 := by
    intro same
    have bottom : u + 1 = 0 := field.symm.trans (congrArg BitVec.toNat same)
    omega
  have whole : (1#1 ++ BitVec.ofNat 52 m).toNat = m := by
    rw [BitVec.toNat_append, ← Nat.shiftLeft_add_eq_or_of_lt (BitVec.isLt _), BitVec.toNat_ofNat]
    show 2 ^ 52 + m % 2 ^ 52 = m
    omega
  rw [UnpackedFloat.unpack]
  simp only [unpackMantissa_packComponents, unpackExponent_packComponents,
    unpackSign_packComponents, Sign.ofBitVec_toBitVec]
  rw [if_neg ones, if_neg zeros]
  simp only [whole, field]
  congr 1
  show ((u + 1 : Nat) : Int) - (1023 + 52) = u - 1074
  omega

theorem unpack_subnormal (s : Sign) {m : Nat} (some_ : 0 < m) (small : m < 2 ^ 52) :
    UnpackedFloat.unpack .binary64 (packComponents .binary64 s 0#11 (.ofNat 52 m)) =
      .finite s m (-1074) some_ := by
  have field : (BitVec.ofNat 52 m).toNat = m := by
    rw [BitVec.toNat_ofNat]
    exact Nat.mod_eq_of_lt small
  have nonzero : BitVec.ofNat 52 m ≠ 0#52 := by
    intro same
    have none_ : m = 0 := field.symm.trans (congrArg BitVec.toNat same)
    omega
  rw [UnpackedFloat.unpack]
  simp only [unpackMantissa_packComponents, unpackExponent_packComponents,
    unpackSign_packComponents, Sign.ofBitVec_toBitVec]
  rw [if_neg (by decide), if_pos trivial, dif_neg nonzero]
  simp only [field]
  congr 1

/-- Packing keeps a number in its one form, unless the exponent is too large. -/
theorem unpack_pack (s : Sign) {m u : Nat} (some_ : 0 < m) (canonical : Canonical m (u - 1074)) :
    UnpackedFloat.unpack .binary64 (UnpackedFloat.pack .binary64 (.finite s m (u - 1074) some_)) =
      if u ≤ 2045 then .finite s m (u - 1074) some_ else .infinity s := by
  have biased : ((u : Int) - 1074 + (Format.binary64.exponentBias : Nat) +
      (Format.binary64.mantissaBitsWithoutImplicit : Nat)).toNat = u + 1 := by
    show ((u : Int) - 1074 + 1023 + 52).toNat = u + 1
    omega
  rw [UnpackedFloat.pack]
  simp only [biased]
  by_cases inside : u ≤ 2045
  · rw [if_neg (by omega), if_pos inside]
    by_cases full : 2 ^ 52 ≤ m
    · have digits : m.log2 = 52 := (Nat.log2_eq_iff some_.ne').mpr ⟨full, canonical.small⟩
      rw [if_pos (by rw [digits]; rfl)]
      exact unpack_normal s some_ canonical.small full inside
    · have digits : m.log2 < 52 := (Nat.log2_lt some_.ne').mpr (Nat.lt_of_not_le full)
      have bottom : (u : Int) - 1074 = -1074 := canonical.full.resolve_right full
      rw [if_neg (by show m.log2 + 1 ≠ 53; omega)]
      simp only [bottom]
      exact unpack_subnormal s some_ (Nat.lt_of_not_le full)
  · rw [if_pos (by omega), if_neg inside]
    cases s <;> rfl

theorem unpack_canonical {x : Float} {s : Sign} {m : Nat} {e : Int} {some_ : 0 < m}
    (read : x.toModel.unpack = .finite s m e some_) : Canonical m e ∧ e ≤ 971 := by
  have same : ofBits x.toBits = .finite (isNegative s) m e := by
    have taken := ofFloat_eq x
    rw [read] at taken
    exact taken
  exact ofBits_canonical same

theorem mantissa_below {m u top : Nat} (small : m < 2 ^ 53) (inside : u ≤ top) :
    m * 2 ^ u ≤ 2 ^ 53 * 2 ^ top :=
  Nat.mul_le_mul (Nat.le_of_lt small) (Nat.pow_le_pow_right (by decide) inside)

theorem below_mantissa {m u top : Nat} (full : 2 ^ 52 ≤ m) (outside : top < u) :
    2 ^ 53 * 2 ^ top ≤ m * 2 ^ u := by
  calc 2 ^ 53 * 2 ^ top = 2 ^ 52 * 2 ^ (top + 1) := by ring
    _ ≤ m * 2 ^ u := Nat.mul_le_mul full (Nat.pow_le_pow_right (by decide) outside)

@[irreducible] def infinite : Nat := 2 ^ 53 * 2 ^ 2045

/-- How many times a number holds the least one above zero. One below zero does not hold it. -/
def units : Binary64 → Nat
  | .finite false m e => m * 2 ^ (e + 1074).toNat
  | .infinity false => infinite
  | _ => 0

theorem units_finite {m u : Nat} (some_ : 0 < m) :
    units (ofUnpacked (.finite .positive m (u - 1074) some_)) = m * 2 ^ u := by
  have place : ((u : Int) - 1074 + 1074).toNat = u := by omega
  exact congrArg (m * 2 ^ ·) place

theorem units_zero (s : Sign) : units (ofUnpacked (.zero s)) = 0 := by
  cases s with
  | negative => rfl
  | positive => exact Nat.zero_mul _

theorem canonical_le {m n : Nat} {d e : Int} (first : Canonical m d) (second : Canonical n e)
    (ordered : d < e ∨ d = e ∧ m ≤ n) : m * 2 ^ (d + 1074).toNat ≤ n * 2 ^ (e + 1074).toNat := by
  have low := first.low
  rcases ordered with less | ⟨rfl, fewer⟩
  · have full : 2 ^ 52 ≤ n := second.full.resolve_left (by omega)
    exact (mantissa_below first.small (Nat.le_refl _)).trans (below_mantissa full (by omega))
  · exact Nat.mul_le_mul_right _ fewer

theorem canonical_le_infinite {m : Nat} {e : Int} (canonical : Canonical m e) (high : e ≤ 971) :
    m * 2 ^ (e + 1074).toNat ≤ infinite := by
  unfold infinite
  exact mantissa_below canonical.small (by omega)

theorem lt_iff (x y : Float) :
    x < y ↔ x.toModel.unpack.compare y.toModel.unpack = some .lt := by
  show decide (UnpackedFloat.lt x.toModel.unpack y.toModel.unpack = true) = true ↔ _
  rw [decide_eq_true_iff, UnpackedFloat.lt, beq_iff_eq]

/-- A finite number above zero parts the others by their units. -/
theorem threshold {x : Float} {m : Nat} {e : Int} {some_ : 0 < m}
    (positive : x.toModel.unpack = .finite .positive m e some_) (y : Float) :
    (x < y → units (ofFloat x) ≤ units (ofFloat y)) ∧
      (¬ x < y → units (ofFloat y) ≤ units (ofFloat x)) := by
  obtain ⟨canonical, high⟩ := unpack_canonical positive
  rw [lt_iff, ofFloat_eq, ofFloat_eq, positive]
  cases other : y.toModel.unpack with
  | notANumber => exact ⟨nofun, fun _ => Nat.zero_le _⟩
  | zero s =>
    rw [units_zero]
    exact ⟨nofun, fun _ => Nat.zero_le _⟩
  | infinity s =>
    cases s with
    | negative => exact ⟨nofun, fun _ => Nat.zero_le _⟩
    | positive => exact ⟨fun _ => canonical_le_infinite canonical high, fun other => absurd rfl other⟩
  | finite s n d more =>
    cases s with
    | negative => exact ⟨nofun, fun _ => Nat.zero_le _⟩
    | positive =>
      obtain ⟨canonical', -⟩ := unpack_canonical other
      have less : UnpackedFloat.compare (.finite .positive m e some_) (.finite .positive n d more) =
          some .lt ↔ e < d ∨ e = d ∧ m < n := by
        rw [UnpackedFloat.compare, Option.some_inj, Ordering.then_eq_lt]
        simp [Std.compare_eq_lt]
      rw [less]
      constructor
      · intro before
        exact canonical_le canonical canonical' (by omega)
      · intro behind
        exact canonical_le canonical' canonical (by omega)

def repacked (a : UnpackedFloat) : Binary64 :=
  ofUnpacked (UnpackedFloat.unpack .binary64 (UnpackedFloat.pack .binary64 a))

section Repacked
variable {m u : Nat} (some_ : 0 < m) (canonical : Canonical m (u - 1074))
include canonical

theorem units_repacked :
    units (repacked (.finite .positive m (u - 1074) some_)) = min (m * 2 ^ u) infinite := by
  rw [repacked, unpack_pack .positive some_ canonical]
  by_cases inside : u ≤ 2045
  · have below : m * 2 ^ u ≤ infinite := by
      unfold infinite
      exact mantissa_below canonical.small inside
    rw [if_pos inside, Nat.min_eq_left below, units_finite]
  · have full : 2 ^ 52 ≤ m := canonical.full.resolve_left (by omega)
    have above : infinite ≤ m * 2 ^ u := by
      unfold infinite
      exact below_mantissa full (by omega)
    rw [if_neg inside, Nat.min_eq_right above]
    rfl

theorem units_repacked_negative :
    units (repacked (.finite .negative m (u - 1074) some_)) = 0 := by
  rw [repacked, unpack_pack .negative some_ canonical]
  split <;> rfl

end Repacked

def thousandfold (a : UnpackedFloat) : UnpackedFloat :=
  UnpackedFloat.mul .binary64 a (.finite .positive (1000 * 2 ^ 43) (-43) (by decide))

theorem ofFloat_thousandfold (x : Float) :
    ofFloat (x * 1000) = repacked (thousandfold x.toModel.unpack) := ofFloat_eq _

theorem thousandfold_finite (s : Sign) {m u : Nat} (some_ : 0 < m) :
    (nearest (1000 * (m * 2 ^ u)) = 0 ∧
      thousandfold (.finite s m (u - 1074) some_) = .zero (s * .positive)) ∨
    ∃ (r v : Nat) (more : 0 < r),
      thousandfold (.finite s m (u - 1074) some_) = .finite (s * .positive) r (v - 1074) more ∧
      Canonical r (v - 1074) ∧ r * 2 ^ v = nearest (1000 * (m * 2 ^ u)) := by
  have positive : m * (1000 * 2 ^ 43) ≠ 0 := (Nat.mul_pos some_ (by decide)).ne'
  have scaled : m * (1000 * 2 ^ 43) * 2 ^ u = 1000 * (m * 2 ^ u) * 2 ^ 43 := by ring
  have fits : u ≤ excess (1000 * (m * 2 ^ u)) + 43 := by
    have digits : (1000 * (m * 2 ^ u)).log2 = (1000 * m).log2 + u := by
      rw [← Nat.mul_assoc, log2_scale (by omega)]
    have nine : 9 ≤ (1000 * m).log2 := (Nat.le_log2 (by omega)).mpr (by omega)
    rw [excess, digits]
    omega
  have place : (u : Int) - (43 : Nat) - 1074 = u - 1074 + -43 := by omega
  have rounded := round_nearest positive scaled fits (s * .positive)
  rw [place] at rounded
  exact rounded

theorem units_thousandfold (x : Float) :
    units (ofFloat (x * 1000)) = min (nearest (1000 * units (ofFloat x))) infinite := by
  have nothing : 0 = min (nearest (1000 * 0)) infinite := (Nat.zero_min _).symm
  rw [ofFloat_thousandfold, ofFloat_eq x]
  cases read : x.toModel.unpack with
  | notANumber => exact nothing
  | zero s =>
    rw [units_zero, ← nothing]
    cases s <;> rfl
  | infinity s =>
    cases s with
    | negative => exact nothing
    | positive =>
      have far : infinite ≤ nearest (1000 * infinite) := by
        have half := half_le_nearest (1000 * infinite)
        omega
      exact (Nat.min_eq_right far).symm
  | finite s m e some_ =>
    obtain ⟨canonical, -⟩ := unpack_canonical read
    obtain ⟨u, rfl⟩ := canonical.position
    cases s with
    | negative =>
      have none_ : units (repacked (thousandfold (.finite .negative m (u - 1074) some_))) = 0 := by
        rcases thousandfold_finite .negative some_ with ⟨-, done⟩ | ⟨r, v, more, done, form, -⟩
        · rw [done]
          rfl
        · rw [done]
          exact units_repacked_negative more form
      rw [none_]
      exact nothing
    | positive =>
      rw [units_finite]
      rcases thousandfold_finite .positive some_ with ⟨none_, done⟩ | ⟨r, v, more, done, form, value⟩
      · rw [none_, done, Nat.zero_min]
        rfl
      · rw [done, ← value]
        exact units_repacked more form

/-- How many binary digits a number can have behind the point, which is where the least one has its
only digit. -/
@[irreducible] def fraction : Nat := 1074

theorem fraction_eq : (fraction : Int) = 1074 := by
  unfold fraction
  rfl

/-- The nearest whole number to so many units, halves rounded up. -/
def wholes (n : Nat) : Nat := (2 * n + 2 ^ fraction) / (2 * 2 ^ fraction)

theorem wholes_mono {m n : Nat} (ordered : m ≤ n) : wholes m ≤ wholes n :=
  Nat.div_le_div_right (by omega)

theorem ratio_scaled (m u b : Nat) :
    ∃ c, 0 < c ∧ (ratio m (u - b)).1 * c = m * 2 ^ u ∧ (ratio m (u - b)).2 * c = 2 ^ b := by
  refine ⟨2 ^ min u b, Nat.two_pow_pos _, ?_, ?_⟩
  · have digits : ((u : Int) - b).toNat + min u b = u := by omega
    rw [ratio, Nat.shiftLeft_eq, Nat.mul_assoc, ← Nat.pow_add, digits]
  · have digits : (-((u : Int) - b)).toNat + min u b = b := by omega
    simp only [ratio, Nat.shiftLeft_eq, Nat.one_mul]
    rw [← Nat.pow_add, digits]

theorem toNatUpTo_finite (most m u : Nat) :
    toNatUpTo most (.finite false m (u - 1074)) = min most (wholes (m * 2 ^ u)) := by
  obtain ⟨c, positive, above, below⟩ := ratio_scaled m u fraction
  rw [fraction_eq] at above below
  have quotient : wholes (m * 2 ^ u) =
      (2 * (ratio m (u - 1074)).1 + (ratio m (u - 1074)).2) / (2 * (ratio m (u - 1074)).2) := by
    rw [wholes, ← above, ← below, ← Nat.mul_assoc, ← Nat.add_mul, ← Nat.mul_assoc]
    exact Nat.mul_div_mul_right _ _ positive
  rw [quotient]
  rfl

theorem wholes_infinite {most : Nat} (word : most < 2 ^ 64) : most ≤ wholes infinite := by
  have digits : 12 + fraction ≤ 2045 := by
    unfold fraction
    decide
  have far : 2 ^ 52 * 2 ^ (12 + fraction) ≤ infinite := by
    unfold infinite
    exact mantissa_below (by decide) digits
  rw [wholes, Nat.le_div_iff_mul_le (Nat.mul_pos (by decide) (Nat.two_pow_pos _))]
  calc most * (2 * 2 ^ fraction) ≤ 2 ^ 64 * (2 * 2 ^ fraction) :=
        Nat.mul_le_mul_right _ (Nat.le_of_lt word)
    _ = 2 * (2 ^ 52 * 2 ^ (12 + fraction)) := by ring
    _ ≤ 2 * infinite := Nat.mul_le_mul_left 2 far
    _ ≤ 2 * infinite + 2 ^ fraction := Nat.le_add_right ..

theorem wholes_zero : wholes 0 = 0 := by
  have positive := Nat.two_pow_pos fraction
  rw [wholes, Nat.mul_zero, Nat.zero_add]
  exact Nat.div_eq_of_lt (by omega)

/-- Whatever is read as a number in a range of whole ones goes by its units. -/
theorem toNatUpTo_units {most : Nat} (word : most < 2 ^ 64) (x : Float) :
    (ofFloat x).toNatUpTo most = min most (wholes (units (ofFloat x))) := by
  have nothing : 0 = min most (wholes 0) := by rw [wholes_zero, Nat.min_zero]
  rw [ofFloat_eq]
  cases read : x.toModel.unpack with
  | notANumber => exact nothing
  | infinity s =>
    cases s with
    | negative => exact nothing
    | positive => exact (Nat.min_eq_left (wholes_infinite word)).symm
  | zero s =>
    rw [units_zero]
    cases s with
    | negative => exact nothing
    | positive =>
      have zero := toNatUpTo_finite most 0 0
      rw [Nat.zero_mul] at zero
      exact zero
  | finite s m e some_ =>
    obtain ⟨canonical, -⟩ := unpack_canonical read
    obtain ⟨u, rfl⟩ := canonical.position
    cases s with
    | negative => exact nothing
    | positive =>
      rw [units_finite]
      exact toNatUpTo_finite most m u

end QueryBench.Binary64
