import Mathlib.Data.Nat.Bitwise
import QueryBench.Hash.Crc32
import QueryBench.Proofs.Grammar

/- What the checksum tells apart. A step of the register is linear and loses nothing, so two strings
   of bytes that differ in at most four places in a row have different checksums. -/
namespace QueryBench

theorem Bytes.ofLittle_lt (bs : List UInt8) : ofLittle bs < 256 ^ bs.length := by
  have kept := ofLittle_little bs.length (ofLittle bs)
  rw [little_ofLittle] at kept
  rw [kept]
  exact Nat.mod_lt _ (Nat.pow_pos (by decide))

theorem Bytes.ofLittle_injective {bs cs : List UInt8} (length : cs.length = bs.length)
    (same : ofLittle cs = ofLittle bs) : cs = bs := by
  rw [← little_ofLittle cs, length, same, little_ofLittle]

namespace Crc32

theorem odd_iff (r : UInt32) : r &&& 1 = 1 ↔ r.toNat.testBit 0 = true := by
  rw [← UInt32.toNat_inj, UInt32.toNat_and, Nat.testBit_zero, decide_eq_true_iff]
  exact Eq.congr_left (Nat.and_one_is_mod r.toNat)

theorem xor_twice (r t p : UInt32) : r ^^^ p ^^^ (t ^^^ p) = r ^^^ t := by
  rw [UInt32.xor_comm t p, UInt32.xor_assoc, ← UInt32.xor_assoc p p t, UInt32.xor_self,
    UInt32.zero_xor]

theorem shift_xor (r t : UInt32) : shift (r ^^^ t) = shift r ^^^ shift t := by
  have parity := Nat.testBit_xor r.toNat t.toNat 0
  rw [← UInt32.toNat_xor] at parity
  simp only [shift, odd_iff, parity, UInt32.shiftRight_xor]
  cases r.toNat.testBit 0 <;> cases t.toNat.testBit 0
  · rfl
  · exact UInt32.xor_assoc ..
  · simp only [Bool.xor_false, Bool.false_eq_true, if_true, if_false]
    ac_rfl
  · exact (xor_twice ..).symm

theorem shifts_xor (n : Nat) (r t : UInt32) : shifts n (r ^^^ t) = shifts n r ^^^ shifts n t := by
  induction n generalizing r t with
  | zero => rfl
  | succ n ih => rw [shifts, shifts, shifts, shift_xor, ih]

theorem shifts_add (m n : Nat) (r : UInt32) : shifts (m + n) r = shifts n (shifts m r) := by
  induction m generalizing r with
  | zero => rw [Nat.zero_add, shifts]
  | succ m ih => rw [Nat.add_right_comm, shifts, shifts, ih]

theorem toNat_half (r : UInt32) : (r >>> 1).toNat = r.toNat / 2 := by
  simp [UInt32.toNat_shiftRight, Nat.shiftRight_eq_div_pow]

/-- The highest bit of the polynomial is set, and that of a register moved down is not. -/
theorem eq_zero_of_shift {r : UInt32} (zero : shift r = 0) : r = 0 := by
  have half : (r >>> 1).toNat < polynomial.toNat := by
    rw [toNat_half]
    exact Nat.lt_of_lt_of_le (Nat.div_lt_of_lt_mul (n := 2) (k := 2 ^ 31) r.toNat_lt) (by decide)
  rw [shift] at zero
  split at zero
  · rw [UInt32.xor_eq_zero_iff] at zero
    rw [zero] at half
    exact absurd half (Nat.lt_irrefl _)
  · rename_i even
    rw [← UInt32.toNat_inj, toNat_half] at zero
    rw [odd_iff, Nat.testBit_zero, decide_eq_true_iff] at even
    apply UInt32.toNat_inj.mp
    rw [UInt32.toNat_zero] at *
    omega

theorem shift_injective : Function.Injective shift := by
  intro r t same
  rw [← UInt32.xor_eq_zero_iff, ← shift_xor] at same
  exact UInt32.xor_eq_zero_iff.mp (eq_zero_of_shift same)

theorem shifts_injective (n : Nat) : Function.Injective (shifts n) := by
  induction n with
  | zero => exact fun _ _ same => same
  | succ n ih => exact fun _ _ same => shift_injective (ih same)

theorem foldl_update_injective (bs : List UInt8) :
    Function.Injective fun r => bs.foldl update r := by
  induction bs with
  | nil => exact fun _ _ same => same
  | cons b bs ih => exact fun _ _ same => (UInt32.xor_left_inj _).mp (shifts_injective 8 (ih same))

theorem shift_double {n : Nat} (small : 2 * n < 2 ^ 32) :
    shift (UInt32.ofNat (2 * n)) = UInt32.ofNat n := by
  have back : (UInt32.ofNat (2 * n)).toNat = 2 * n := UInt32.toNat_ofNat_of_lt' small
  have even : ¬ UInt32.ofNat (2 * n) &&& 1 = 1 := by
    rw [odd_iff, back]
    simp
  apply UInt32.toNat_inj.mp
  have smaller : n < 2 ^ 32 := by omega
  rw [shift, if_neg even, toNat_half, back, UInt32.toNat_ofNat_of_lt' smaller]
  omega

theorem shifts_multiple {k n : Nat} (small : 2 ^ k * n < 2 ^ 32) :
    shifts k (UInt32.ofNat (2 ^ k * n)) = UInt32.ofNat n := by
  induction k with
  | zero => simp [shifts]
  | succ k ih =>
    rw [Nat.pow_succ', Nat.mul_assoc] at small ⊢
    rw [shifts, shift_double small]
    exact ih (by omega)

theorem add_eq_xor {b : Nat} (small : b < 2 ^ 8) (n : Nat) : b + 2 ^ 8 * n = b ^^^ 2 ^ 8 * n := by
  apply Nat.eq_of_testBit_eq
  intro i
  rw [Nat.testBit_xor, Nat.add_comm, Nat.testBit_two_pow_mul_add n small, Nat.testBit_two_pow_mul]
  by_cases low : i < 8
  · simp [low, Nat.not_le.mpr low]
  · have none : b.testBit i = false :=
      Nat.testBit_lt_two_pow (Nat.lt_of_lt_of_le small (Nat.pow_le_pow_right (by decide) (by omega)))
    simp [low, none, Nat.le_of_not_lt low]

/-- Up to four bytes go through the register like one number. -/
theorem foldl_update_word {bs : List UInt8} (short : bs.length ≤ 4) (r : UInt32) :
    bs.foldl update r = shifts (8 * bs.length) (r ^^^ UInt32.ofNat (Bytes.ofLittle bs)) := by
  induction bs generalizing r with
  | nil => simp [shifts, Bytes.ofLittle]
  | cons b bs ih =>
    rw [List.length_cons] at short
    have small : 2 ^ 8 * Bytes.ofLittle bs < 2 ^ 32 := by
      have bound := Bytes.ofLittle_lt bs
      have fewer : 256 ^ bs.length ≤ 256 ^ 3 := Nat.pow_le_pow_right (by decide) (by omega)
      omega
    have word : UInt32.ofNat (Bytes.ofLittle (b :: bs)) =
        b.toUInt32 ^^^ UInt32.ofNat (2 ^ 8 * Bytes.ofLittle bs) := by
      have joined : Bytes.ofLittle (b :: bs) = b.toNat ^^^ 2 ^ 8 * Bytes.ofLittle bs :=
        add_eq_xor b.toNat_lt (Bytes.ofLittle bs)
      rw [joined, UInt32.ofNat_xor, UInt32.ofNat_uInt8ToNat]
    calc (b :: bs).foldl update r
        = shifts (8 * bs.length) (update r b ^^^ UInt32.ofNat (Bytes.ofLittle bs)) :=
          ih (by omega) _
      _ = shifts (8 * bs.length)
            (shifts 8 (r ^^^ b.toUInt32 ^^^ UInt32.ofNat (2 ^ 8 * Bytes.ofLittle bs))) := by
          rw [shifts_xor 8, shifts_multiple small, update]
      _ = shifts (8 * (b :: bs).length) (r ^^^ UInt32.ofNat (Bytes.ofLittle (b :: bs))) := by
          rw [word, ← UInt32.xor_assoc, List.length_cons, Nat.mul_succ, Nat.add_comm, shifts_add]

theorem toNat_word {bs : List UInt8} (short : bs.length ≤ 4) :
    (UInt32.ofNat (Bytes.ofLittle bs)).toNat = Bytes.ofLittle bs := by
  have fewer : 256 ^ bs.length ≤ 256 ^ 4 := Nat.pow_le_pow_right (by decide) short
  exact UInt32.toNat_ofNat_of_lt' (Nat.lt_of_lt_of_le (Bytes.ofLittle_lt bs) fewer)

theorem eq_of_foldl_update {bs cs : List UInt8} (length : cs.length = bs.length)
    (short : bs.length ≤ 4) {r : UInt32} (same : cs.foldl update r = bs.foldl update r) :
    cs = bs := by
  rw [foldl_update_word short, foldl_update_word (length ▸ short), length] at same
  have words := congrArg UInt32.toNat ((UInt32.xor_right_inj r).mp (shifts_injective _ same))
  rw [toNat_word short, toNat_word (length ▸ short)] at words
  exact Bytes.ofLittle_injective length words

/-- As many bytes as before, and not the same, though they differ in at most four places in a
row. -/
structure Burst (bs altered : List UInt8) : Prop where
  length : altered.length = bs.length
  differs : altered ≠ bs
  narrow : ∃ first, ∀ n, n < first ∨ first + 4 ≤ n → altered[n]? = bs[n]?

theorem Burst.inside {bs altered : List UInt8} (front back : List UInt8)
    (length : altered.length = bs.length) (short : bs.length ≤ 4) (differs : altered ≠ bs) :
    Burst (front ++ bs ++ back) (front ++ altered ++ back) where
  length := by simp [length]
  differs := by
    intro same
    exact differs (List.append_cancel_left (List.append_cancel_right same))
  narrow := by
    refine ⟨front.length, ?_⟩
    intro n outside
    by_cases before : n < front.length
    · simp [List.getElem?_append_left, before]
    · have behind : bs.length ≤ n - front.length := by omega
      rw [List.append_assoc, List.append_assoc, List.getElem?_append_right (by omega),
        List.getElem?_append_right (by omega), List.getElem?_append_right (by omega),
        List.getElem?_append_right behind, length]

theorem cut_four (bs : List UInt8) (first : Nat) :
    bs = bs.take first ++ (bs.drop first).take 4 ++ bs.drop (first + 4) := by
  rw [← List.drop_drop, List.append_assoc, List.take_append_drop, List.take_append_drop]

theorem checksum_burst {bs altered : List UInt8} (burst : Burst bs altered) :
    checksum altered ≠ checksum bs := by
  obtain ⟨length, differs, first, outside⟩ := burst
  have front : altered.take first = bs.take first := by
    apply List.ext_getElem?
    intro n
    rw [List.getElem?_take, List.getElem?_take]
    split
    · exact outside n (.inl ‹_›)
    · rfl
  have back : altered.drop (first + 4) = bs.drop (first + 4) := by
    apply List.ext_getElem?
    intro n
    rw [List.getElem?_drop, List.getElem?_drop]
    exact outside _ (.inr (Nat.le_add_right ..))
  have width : ((altered.drop first).take 4).length = ((bs.drop first).take 4).length := by
    simp only [List.length_take, List.length_drop, length]
  intro same
  apply differs
  -- the same register before and behind the four places, so the same bytes go through it there
  have registers := (UInt32.xor_left_inj _).mp same
  rw [cut_four altered first, cut_four bs first, front, back] at registers
  simp only [List.foldl_append] at registers
  have inside := eq_of_foldl_update width (List.length_take_le ..)
    (foldl_update_injective _ registers)
  rw [cut_four altered first, cut_four bs first, front, back, inside]

end Crc32

end QueryBench
