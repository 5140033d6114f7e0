import Mathlib.Algebra.Order.Floor.Div
import Mathlib.Order.Interval.Finset.Nat
import Mathlib.Tactic.Positivity
import QueryBench.Proofs.WindowWords

/- Random windows are spread evenly. A word of the stream is skipped or stands for one start, and
   every start from the first to the last has as many words as any other. -/
namespace QueryBench

namespace Keystream

def skip (width : Width) : Nat → Keystream → Keystream
  | 0, k => k
  | n + 1, k => skip width n (k.next width).2

theorem search_first {α : Type} {width : Width} {accept : Nat → Option α} (otherwise : Unit → α)
    {n fuel : Nat} {k : Keystream} {a : α}
    (refused : ∀ m < n, accept ((k.skip width m).next width).1 = none)
    (accepted : accept ((k.skip width n).next width).1 = some a) (enough : n < fuel) :
    k.search width accept otherwise fuel = (a, k.skip width (n + 1)) := by
  induction n generalizing k fuel with
  | zero =>
    cases fuel with
    | zero => omega
    | succ fuel =>
      rw [search]
      simp only [skip] at accepted ⊢
      rw [accepted]
  | succ n ih =>
    cases fuel with
    | zero => omega
    | succ fuel =>
      have first : accept (k.next width).1 = none := refused 0 (by omega)
      rw [search, first]
      exact ih (fun m few => refused (m + 1) (by omega)) accepted (by omega)

end Keystream

namespace Draw

theorem doubled_le {bits range : Nat} (few : range ≤ 2 ^ bits) :
    range * 2 ^ (bits - 1 - range.log2) ≤ 2 ^ bits := by
  have below : range < 2 ^ (range.log2 + 1) := Nat.lt_log2_self
  by_cases short : range.log2 + 1 ≤ bits
  · calc range * 2 ^ (bits - 1 - range.log2)
        ≤ 2 ^ (range.log2 + 1) * 2 ^ (bits - 1 - range.log2) :=
          Nat.mul_le_mul_right _ (Nat.le_of_lt below)
      _ = 2 ^ (range.log2 + 1 + (bits - 1 - range.log2)) := (Nat.pow_add ..).symm
      _ = 2 ^ bits := by congr 1; omega
  · have undoubled : bits - 1 - range.log2 = 0 := by omega
    rw [undoubled, Nat.pow_zero, Nat.mul_one]
    exact few

/-- The words of a number are those whose product with the bound lies in the zone behind the
number's own multiple of all words. -/
theorem ofWord?_eq_some_iff {bits range word n : Nat} (positive : 0 < range)
    (few : range ≤ 2 ^ bits) :
    ofWord? bits range (doubledZone bits range) word = some n ↔
      n * 2 ^ bits ≤ word * range ∧
        word * range < n * 2 ^ bits + range * 2 ^ (bits - 1 - range.log2) := by
  have zoned := doubled_le few
  have some_ : 0 < range * 2 ^ (bits - 1 - range.log2) := by positivity
  unfold ofWord? doubledZone
  simp only [Nat.shiftLeft_eq, Nat.one_mul, Nat.shiftRight_eq_div_pow]
  generalize range * 2 ^ (bits - 1 - range.log2) = zone at zoned some_ ⊢
  generalize word * range = product
  generalize 2 ^ bits = words at zoned ⊢
  have parts := Nat.div_add_mod' product words
  have low := Nat.mod_lt product (y := words) (by omega)
  constructor
  · intro taken
    split at taken
    · cases taken
      omega
    · cases taken
  · rintro ⟨least, most⟩
    have number : product / words = n := by
      apply Nat.div_eq_of_lt_le least
      rw [Nat.succ_mul]
      omega
    rw [number] at parts
    rw [if_pos (by omega), number]

/-- Every number below the bound has the same count of words, a power of two. -/
theorem card_words {bits range n : Nat} (few : range ≤ 2 ^ bits) (below : n < range) :
    ((Finset.range (2 ^ bits)).filter fun word =>
      ofWord? bits range (doubledZone bits range) word = some n).card =
        2 ^ (bits - 1 - range.log2) := by
  have positive : 0 < range := by omega
  have zoned := doubled_le few
  -- the products are the multiples of the bound in a stretch that is a multiple of it long
  have stretch : ((Finset.range (2 ^ bits)).filter fun word =>
      ofWord? bits range (doubledZone bits range) word = some n) =
        Finset.Ico (n * 2 ^ bits ⌈/⌉ range)
          ((n * 2 ^ bits + range * 2 ^ (bits - 1 - range.log2)) ⌈/⌉ range) := by
    ext word
    rw [Finset.mem_filter, Finset.mem_range, ofWord?_eq_some_iff positive few, Finset.mem_Ico,
      ceilDiv_le_iff_le_mul positive, ← not_le, ← not_le, ← not_le,
      ceilDiv_le_iff_le_mul positive, Nat.mul_comm range word, not_le]
    constructor
    · exact And.right
    · rintro ⟨least, most⟩
      have last : (n + 1) * 2 ^ bits ≤ range * 2 ^ bits := Nat.mul_le_mul_right _ below
      have product : word * range < 2 ^ bits * range := by
        rw [Nat.succ_mul] at last
        rw [Nat.mul_comm (2 ^ bits)]
        omega
      exact ⟨Nat.lt_of_mul_lt_mul_right product, least, most⟩
  have length : (n * 2 ^ bits + range * 2 ^ (bits - 1 - range.log2)) ⌈/⌉ range =
      n * 2 ^ bits ⌈/⌉ range + 2 ^ (bits - 1 - range.log2) := by
    rw [Nat.ceilDiv_eq_add_pred_div, Nat.ceilDiv_eq_add_pred_div,
      ← Nat.add_mul_div_left _ _ positive]
    congr 1
    omega
  rw [stretch, length, Nat.card_Ico, Nat.add_sub_cancel_left]

end Draw

namespace Interval

/-- The words that stand for the window with the given start. -/
def startWords (i : Interval) (window : Duration) (start : Int) : Finset Nat :=
  (Finset.range UInt64.size).filter fun word =>
    (i.windowOfWord? window word).map Interval.start = some start

theorem windowOfWord?_start {i : Interval} {window : Duration} (fits : window.nanos ≤ i.span)
    {word : Nat} (bounded : word < UInt64.size) (offset : Nat) :
    (i.windowOfWord? window word).map Interval.start = some (i.start + offset) ↔
      Draw.ofWord? 64 (i.span - window.nanos + 1)
        (Draw.doubledZone 64 (i.span - window.nanos + 1)) word = some offset := by
  simp only [windowOfWord?]
  cases read : Draw.ofWord? 64 (i.span - window.nanos + 1)
      (Draw.doubledZone 64 (i.span - window.nanos + 1)) word with
  | none => simp
  | some drawn =>
    have few := Draw.ofWord?_lt (Nat.succ_pos _) bounded read
    have inside : drawn + window.nanos ≤ i.span := by omega
    obtain ⟨w, placed, start, -⟩ := i.windowAt?_fits window inside
    simp only [Option.bind_some, placed, Option.map_some, start, Option.some.injEq]
    omega

theorem card_startWords {i : Interval} {window : Duration} (fits : window.nanos ≤ i.span)
    {offset : Nat} (few : offset ≤ i.span - window.nanos) :
    (i.startWords window (i.start + offset)).card =
      2 ^ (63 - (i.span - window.nanos + 1).log2) := by
  have bounded : i.span < 2 ^ 64 := i.span_lt
  have offsets : i.span - window.nanos + 1 ≤ 2 ^ 64 := by omega
  have same : i.startWords window (i.start + offset) =
      (Finset.range (2 ^ 64)).filter fun word =>
        Draw.ofWord? 64 (i.span - window.nanos + 1)
          (Draw.doubledZone 64 (i.span - window.nanos + 1)) word = some offset := by
    apply Finset.filter_congr
    intro word member
    exact windowOfWord?_start fits (Finset.mem_range.mp member) offset
  rw [same]
  exact Draw.card_words offsets (by omega)

def starts (i : Interval) (window : Duration) : Finset Int :=
  (Finset.range (i.span - window.nanos + 1)).image fun offset : Nat => i.start + offset

theorem card_starts (i : Interval) (window : Duration) :
    (i.starts window).card = i.span - window.nanos + 1 := by
  have apart : Function.Injective fun offset : Nat => i.start + offset := by
    intro m n equal
    exact Int.natCast_inj.mp (Int.add_left_cancel equal)
  rw [starts, Finset.card_image_of_injective _ apart, Finset.card_range]

theorem mem_starts {i : Interval} {window : Duration} (fits : window.nanos ≤ i.span) (start : Int) :
    start ∈ i.starts window ↔ i.start ≤ start ∧ start + window.nanos ≤ i.finish := by
  have span := i.span_eq
  rw [starts, Finset.mem_image]
  constructor
  · rintro ⟨offset, few, rfl⟩
    rw [Finset.mem_range] at few
    omega
  · rintro ⟨early, late⟩
    obtain ⟨offset, behind⟩ := Int.eq_ofNat_of_zero_le (Int.sub_nonneg.mpr early)
    refine ⟨offset, Finset.mem_range.mpr ?_, ?_⟩
    · omega
    · omega

theorem startWords_outside {i : Interval} {window : Duration} (fits : window.nanos ≤ i.span)
    {start : Int} (outside : start ∉ i.starts window) : i.startWords window start = ∅ := by
  apply Finset.filter_eq_empty_iff.mpr
  intro word _ read
  obtain ⟨w, found, rfl⟩ := Option.map_eq_some_iff.mp read
  obtain ⟨offset, -, placed⟩ := Option.bind_eq_some_iff.mp found
  have within := windowAt?_within placed
  have spans := within.spans
  have ends := within.ends
  exact outside ((mem_starts fits _).mpr ⟨within.starts, by omega⟩)

/-- A window can start at the first nanosecond of the interval, at the last that leaves room for it,
and at any between. Of all words each of these starts has the same count, which is not zero, and no
other start has any. A draw skips the words that stand for no start, and takes the window of the
first word that does. -/
theorem starts_are_equally_likely {i : Interval} {window : Duration}
    (shorter : window.nanos < i.span) :
    (∀ start, start ∈ i.starts window ↔ i.start ≤ start ∧ start + window.nanos ≤ i.finish) ∧
    (i.starts window).card = i.span - window.nanos + 1 ∧
    (∃ n, 0 < n ∧ (∀ start ∈ i.starts window, (i.startWords window start).card = n) ∧
      ∀ start ∉ i.starts window, (i.startWords window start).card = 0) ∧
    ∀ k n w, n < Keystream.period →
      (∀ m < n, i.windowOfWord? window ((k.skip .long m).next .long).1 = none) →
      i.windowOfWord? window ((k.skip .long n).next .long).1 = some w →
        i.randomWindow window k = (.ok w, k.skip .long (n + 1)) := by
  have fits := Nat.le_of_lt shorter
  refine ⟨mem_starts fits, i.card_starts window, ?_, ?_⟩
  · refine ⟨2 ^ (63 - (i.span - window.nanos + 1).log2), by positivity, ?_, ?_⟩
    · intro start member
      obtain ⟨offset, few, rfl⟩ := Finset.mem_image.mp member
      rw [Finset.mem_range] at few
      exact card_startWords fits (by omega)
    · intro start outside
      rw [startWords_outside fits outside, Finset.card_empty]
  · intro k n w enough refused accepted
    rw [randomWindow, if_neg (by omega), if_neg (by omega),
      Keystream.search_first _ refused accepted enough]

theorem day_starts_are_equally_likely :
    (Duration.ofHours 12).nanos < day.span ∧
    (day.starts (.ofHours 12)).card = 43200000000001 ∧
    (∃ n, 0 < n ∧
      (∀ start ∈ day.starts (.ofHours 12), (day.startWords (.ofHours 12) start).card = n) ∧
      ∀ start ∉ day.starts (.ofHours 12), (day.startWords (.ofHours 12) start).card = 0) ∧
    (day.randomWindow (.ofHours 12) (.ofSeed 7)).2 = (Keystream.ofSeed 7).skip .long 1 := by
  have shorter : (Duration.ofHours 12).nanos < day.span := by decide
  obtain ⟨-, count, even, draws⟩ := starts_are_equally_likely shorter
  obtain ⟨w, accepted⟩ :
      ∃ w, day.windowOfWord? (.ofHours 12) ((Keystream.ofSeed 7).next .long).1 = some w :=
    Option.isSome_iff_exists.mp (by decide +kernel)
  have drawn :=
    draws (.ofSeed 7) 0 w (by decide) (fun m few => absurd few (Nat.not_lt_zero m)) accepted
  exact ⟨shorter, count, even, congrArg Prod.snd drawn⟩

end Interval

end QueryBench
