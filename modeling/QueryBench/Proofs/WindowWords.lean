import QueryBench.Proofs.Requests

/- Drawing a window in 64-bit words. Bounds are signed words, lengths unsigned ones, and a draw goes
   back and forth between the two. In an interval that is not longer than the greatest signed word
   every step has a result that is a word, however close its bounds are to the ends of their
   type. -/
namespace QueryBench

/- Arithmetic of 64-bit words with no result where the value is not a word. -/
namespace Word

def Signed (n : Int) : Prop := -0x8000000000000000 ≤ n ∧ n < 0x8000000000000000

instance (n : Int) : Decidable (Signed n) := inferInstanceAs (Decidable (_ ∧ _))

def ofNat? (n : Nat) : Option UInt64 := if n < UInt64.size then some (.ofNat n) else none

def sub? (a b : UInt64) : Option UInt64 := if b ≤ a then some (a - b) else none

def signed? (a : UInt64) : Option Int64 := if Signed a.toNat then some a.toInt64 else none

def add? (a b : Int64) : Option Int64 := if Signed (a.toInt + b.toInt) then some (a + b) else none

/-- How far two signed words are apart, which always is an unsigned word. -/
def distance (a b : Int64) : UInt64 := if a ≤ b then (b - a).toUInt64 else (a - b).toUInt64

/-- A number from zero up to a word, which takes no word of the stream where there is no choice. -/
def upTo (most : UInt64) (k : Keystream) : Nat × Keystream :=
  if most = 0 then (0, k) else Draw.below .long (most.toNat + 1) k

/-- The two ends of a window, the first of them so far behind a start and the second behind it. -/
def place? (start : Int64) (offset length : UInt64) : Option (Int64 × Int64) := do
  let first ← add? start (← signed? offset)
  let last ← add? first (← signed? length)
  return (first, last)

theorem toNat_ofNat {n : Nat} (small : n < UInt64.size) : (UInt64.ofNat n).toNat = n :=
  UInt64.toNat_ofNat_of_lt' small

theorem toInt_ofInt {n : Int} (small : Signed n) : (Int64.ofInt n).toInt = n :=
  Int64.toInt_ofInt_of_le small.1 small.2

theorem ofNat?_small {n : Nat} (small : n < UInt64.size) : ofNat? n = some (.ofNat n) :=
  if_pos small

theorem ofNat?_large {n : Nat} (large : UInt64.size ≤ n) : ofNat? n = none :=
  if_neg (Nat.not_lt.mpr large)

theorem le_ofNat {a b : Nat} (first : a < UInt64.size) (second : b < UInt64.size) :
    UInt64.ofNat a ≤ UInt64.ofNat b ↔ a ≤ b := by
  rw [UInt64.le_iff_toNat_le, toNat_ofNat first, toNat_ofNat second]

theorem sub?_ofNat {a b : Nat} (ordered : b ≤ a) (small : a < UInt64.size) :
    sub? (.ofNat a) (.ofNat b) = some (.ofNat (a - b)) := by
  have words := (le_ofNat (Nat.lt_of_le_of_lt ordered small) small).mpr ordered
  rw [sub?, if_pos words, UInt64.ofNat_sub ordered]

theorem signed?_ofNat {n : Nat} (small : Signed n) : signed? (.ofNat n) = some (.ofInt n) := by
  have word : (UInt64.ofNat n).toNat = n := by
    apply toNat_ofNat
    unfold Signed at small
    unfold UInt64.size
    omega
  rw [signed?, word, if_pos small, UInt64.toInt64_ofNat', Int64.ofInt_eq_ofNat]

theorem add?_ofInt {a b : Int} (left : Signed a) (right : Signed b) (sum : Signed (a + b)) :
    add? (.ofInt a) (.ofInt b) = some (.ofInt (a + b)) := by
  rw [add?, toInt_ofInt left, toInt_ofInt right, if_pos sum, Int64.ofInt_add]

theorem upTo_ofNat {n : Nat} (small : n < UInt64.size) (k : Keystream) :
    upTo (.ofNat n) k = if n = 0 then (0, k) else Draw.below .long (n + 1) k := by
  have zero : UInt64.ofNat n = 0 ↔ n = 0 := by
    rw [← UInt64.toNat_inj, toNat_ofNat small, UInt64.toNat_zero]
  rw [upTo, toNat_ofNat small, if_congr zero rfl rfl]

theorem place?_ofInt {start : Int} {offset length : Nat} (before : Signed start)
    (last : Signed (start + offset + length)) (some_ : Signed offset) (long : Signed length) :
    place? (.ofInt start) (.ofNat offset) (.ofNat length) =
      some (.ofInt (start + offset), .ofInt (start + offset + length)) := by
  have first : Signed (start + offset) := by
    unfold Signed at *
    omega
  rw [place?, signed?_ofNat some_, signed?_ofNat long]
  simp only [Option.bind_eq_bind, Option.bind_some, add?_ofInt before some_ first,
    add?_ofInt first long last]
  rfl

theorem distance_ofInt {a b : Int} (left : Signed a) (right : Signed b) (ordered : a ≤ b) :
    distance (.ofInt a) (.ofInt b) = .ofNat (b - a).toNat := by
  have words : Int64.ofInt a ≤ Int64.ofInt b := by
    rw [Int64.le_iff_toInt_le, toInt_ofInt left, toInt_ofInt right]
    exact ordered
  unfold Signed at left right
  have small : (b - a).toNat < UInt64.size := by
    unfold UInt64.size
    omega
  rw [distance, if_pos words, ← Int64.ofInt_sub]
  apply UInt64.toNat_inj.mp
  rw [toNat_ofNat small]
  show (Int64.ofInt (b - a)).toBitVec.toNat = _
  rw [Int64.toBitVec_ofInt, BitVec.toNat_ofInt]
  omega

end Word

/-- A search whose words stand for the same as another's, read in another way. -/
theorem Keystream.search_map {α β : Type} {width : Width} {accept : Nat → Option α}
    {accept' : Nat → Option β} (otherwise : Unit → α) (otherwise' : Unit → β) {f : α → β}
    (reads : ∀ word, word < 2 ^ width.bits → accept' word = (accept word).map f)
    (kept : otherwise' () = f (otherwise ())) (fuel : Nat) (k : Keystream) :
    k.search width accept' otherwise' fuel =
      (f (k.search width accept otherwise fuel).1, (k.search width accept otherwise fuel).2) := by
  induction fuel generalizing k with
  | zero => exact congrArg (·, k) kept
  | succ fuel ih =>
    rw [search, search, reads _ (k.next_lt width)]
    cases accept (k.next width).1 with
    | some a => rfl
    | none => exact ih _

namespace Interval

theorem span_eq (i : Interval) : (i.span : Int) = i.finish - i.start := by
  have ordered := i.ordered
  unfold span
  omega

theorem windowAt?_fits (i : Interval) (window : Duration) {offset : Nat}
    (fits : offset + window.nanos ≤ i.span) :
    ∃ w, i.windowAt? window offset = some w ∧ w.start = i.start + offset ∧
      w.finish = i.start + offset + window.nanos := by
  have span := i.span_eq
  have inside : i.start + offset + window.nanos ≤ i.finish := by omega
  exact ⟨_, dif_pos inside, rfl, rfl⟩

theorem randomWindow_drawn {i : Interval} {window : Duration} (shorter : window.nanos < i.span)
    (k : Keystream) :
    ∃ offset w k', Draw.below .long (i.span - window.nanos + 1) k = (offset, k') ∧
      i.windowAt? window offset = some w ∧ i.randomWindow window k = (.ok w, k') := by
  have placed : ∀ offset, offset < i.span - window.nanos + 1 →
      i.windowAt? window offset = some ((i.windowAt? window offset).getD i) := by
    intro offset few
    have fits : offset + window.nanos ≤ i.span := by omega
    obtain ⟨w, found, -⟩ := i.windowAt?_fits window fits
    rw [found, Option.getD_some]
  have reads : ∀ word, word < 2 ^ Width.long.bits → i.windowOfWord? window word =
      (Draw.ofWord? 64 (i.span - window.nanos + 1)
        (Draw.doubledZone 64 (i.span - window.nanos + 1)) word).map
          fun offset => (i.windowAt? window offset).getD i := by
    intro word bounded
    cases read : Draw.ofWord? 64 (i.span - window.nanos + 1)
        (Draw.doubledZone 64 (i.span - window.nanos + 1)) word with
    | none => simp only [windowOfWord?, read, Option.bind_none, Option.map_none]
    | some offset =>
      have few := Draw.ofWord?_lt (Nat.succ_pos _) bounded read
      simp only [windowOfWord?, read, Option.bind_some, Option.map_some]
      exact placed offset few
  have found := Keystream.search_map (fun _ => 0) (fun _ => (i.windowAt? window 0).getD i) reads
    rfl Keystream.period k
  refine ⟨_, _, _, rfl, placed _ (Draw.below_lt .long (Nat.succ_pos _) k), ?_⟩
  rw [randomWindow, if_neg (by omega), if_neg (by omega)]
  exact congrArg (fun drawn => (Except.ok drawn.1, drawn.2)) found

def words (i : Interval) : Int64 × Int64 := (.ofInt i.start, .ofInt i.finish)

/-- A window at a random place between two signed words. The length becomes an unsigned word and is
compared with the span; what is left over bounds the offset; offset and length become signed words
again and are added. There is no answer where one of the steps has none. -/
def windowInWords? (bounds : Int64 × Int64) (window : Duration) (k : Keystream) :
    Option (Except Error (Int64 × Int64) × Keystream) :=
  let span := Word.distance bounds.1 bounds.2
  match (Word.ofNat? window.nanos).filter (· ≤ span) with
  | none => some (.error (.windowTooLarge window ⟨span.toNat⟩), k)
  | some length => do
      let slack ← Word.sub? span length
      let (drawn, k) := Word.upTo slack k
      let window ← Word.place? bounds.1 (← Word.ofNat? drawn) length
      return (.ok window, k)

theorem signed_bounds (i : Interval) : Word.Signed i.start ∧ Word.Signed i.finish := by
  have ordered := i.ordered
  have lower := i.lower
  have upper := i.upper
  unfold Word.Signed
  omega

theorem span_lt (i : Interval) : i.span < UInt64.size := by
  have span := i.span_eq
  have lower := i.lower
  have upper := i.upper
  unfold UInt64.size
  omega

theorem distance_words (i : Interval) :
    Word.distance i.words.1 i.words.2 = .ofNat i.span :=
  Word.distance_ofInt i.signed_bounds.1 i.signed_bounds.2 i.ordered

theorem length_refused {i : Interval} {window : Duration} (longer : i.span < window.nanos) :
    (Word.ofNat? window.nanos).filter (· ≤ UInt64.ofNat i.span) = none := by
  by_cases small : window.nanos < UInt64.size
  · have above : ¬ UInt64.ofNat window.nanos ≤ UInt64.ofNat i.span := by
      rw [Word.le_ofNat small i.span_lt]
      omega
    rw [Word.ofNat?_small small, Option.filter_some_neg (by simpa using above)]
  · rw [Word.ofNat?_large (Nat.le_of_not_lt small), Option.filter_none]

theorem length_accepted {i : Interval} {window : Duration} (fits : window.nanos ≤ i.span) :
    (Word.ofNat? window.nanos).filter (· ≤ UInt64.ofNat i.span) = some (.ofNat window.nanos) := by
  have small := Nat.lt_of_le_of_lt fits i.span_lt
  have below := (Word.le_ofNat small i.span_lt).mpr fits
  rw [Word.ofNat?_small small, Option.filter_some_pos (by simpa using below)]

theorem windowInWords?_placed {i : Interval} (moderate : i.span ≤ 0x7fffffffffffffff)
    {window : Duration} {offset : Nat} {k k' : Keystream} {w : Interval}
    (drawn : Word.upTo (.ofNat (i.span - window.nanos)) k = (offset, k'))
    (fits : offset + window.nanos ≤ i.span) (placed : i.windowAt? window offset = some w) :
    windowInWords? i.words window k = some (.ok w.words, k') := by
  have span := i.span_eq
  have small := i.span_lt
  have bounds := i.signed_bounds
  obtain ⟨w', found, start, finish⟩ := i.windowAt?_fits window fits
  obtain rfl := Option.some.inj (placed.symm.trans found)
  have last : Word.Signed (i.start + offset + window.nanos) := by
    unfold Word.Signed at *
    omega
  have ends : Word.place? i.words.1 (.ofNat offset) (.ofNat window.nanos) = some w.words := by
    rw [words, words, start, finish]
    apply Word.place?_ofInt bounds.1 last
    · unfold Word.Signed
      omega
    · unfold Word.Signed
      omega
  have enough : window.nanos ≤ i.span := by omega
  have word : offset < UInt64.size := by omega
  -- the steps are rewritten, as the kernel would evaluate the draw to see that they are equal
  simp -implicitDefEqProofs only [windowInWords?, distance_words, length_accepted enough,
    Word.sub?_ofNat enough small, Option.bind_eq_bind, Option.bind_some, drawn,
    Word.ofNat?_small word, ends]
  rfl

theorem windowInWords?_refused {i : Interval} {window : Duration} (longer : i.span < window.nanos)
    (k : Keystream) :
    windowInWords? i.words window k = some (.error (.windowTooLarge window i.duration), k) := by
  unfold windowInWords?
  simp only [distance_words, length_refused longer, Word.toNat_ofNat i.span_lt]
  rfl

/-- A window that is too long takes no word, nor does one that leaves no choice; any other takes its
offset from the stream. -/
theorem randomWindow_cases (i : Interval) (window : Duration) (k : Keystream) :
    (i.span < window.nanos ∧
      i.randomWindow window k = (.error (.windowTooLarge window i.duration), k)) ∨
    (window.nanos = i.span ∧ i.randomWindow window k = (.ok i, k)) ∨
    (window.nanos < i.span ∧ ∃ offset w k',
      Draw.below .long (i.span - window.nanos + 1) k = (offset, k') ∧
        i.windowAt? window offset = some w ∧ i.randomWindow window k = (.ok w, k')) := by
  rcases Nat.lt_trichotomy window.nanos i.span with shorter | whole | longer
  · exact .inr (.inr ⟨shorter, randomWindow_drawn shorter k⟩)
  · refine .inr (.inl ⟨whole, ?_⟩)
    rw [randomWindow, if_neg (by omega), if_pos whole.symm]
  · refine .inl ⟨longer, ?_⟩
    rw [randomWindow, if_pos longer]

theorem windowInWords?_eq {i : Interval} (moderate : i.span ≤ 0x7fffffffffffffff)
    (window : Duration) (k : Keystream) :
    windowInWords? i.words window k =
      some ((i.randomWindow window k).1.map words, (i.randomWindow window k).2) := by
  rcases i.randomWindow_cases window k with
    ⟨longer, refused⟩ | ⟨whole, taken⟩ | ⟨shorter, offset, w, k', drawn, placed, taken⟩
  · rw [refused]
    exact windowInWords?_refused longer k
  · have fits : 0 + window.nanos ≤ i.span := by omega
    obtain ⟨w, placed, start, finish⟩ := i.windowAt?_fits window fits
    have span := i.span_eq
    obtain rfl : w = i := by
      cases i
      cases w
      simp only [mk.injEq] at *
      omega
    have still : Word.upTo (.ofNat (w.span - window.nanos)) k = (0, k) := by
      rw [Word.upTo_ofNat (by have := w.span_lt; omega), if_pos (by omega)]
    rw [taken]
    exact windowInWords?_placed moderate still (by omega) placed
  · have few : offset < i.span - window.nanos + 1 := by
      have below := Draw.below_lt .long (Nat.succ_pos (i.span - window.nanos)) k
      rwa [drawn] at below
    have moved : Word.upTo (.ofNat (i.span - window.nanos)) k = (offset, k') := by
      rw [Word.upTo_ofNat (by have := i.span_lt; omega), if_neg (by omega), drawn]
    rw [taken]
    exact windowInWords?_placed moderate moved (by omega) placed

/-- A window longer than the interval is refused, with no word taken, and no other is. The interval
itself is its only window of its own length, and takes no word either. Any other window begins and
ends where the words of its bounds say, inside the interval to the nanosecond. No step of this
leaves its type, as long as the span of the interval is a signed word. -/
theorem windows_stay_in_words (i : Interval) (moderate : i.span ≤ 0x7fffffffffffffff)
    (window : Duration) (k : Keystream) :
    windowInWords? i.words window k =
      some ((i.randomWindow window k).1.map words, (i.randomWindow window k).2) ∧
    ((∃ e, (i.randomWindow window k).1 = .error e) ↔ i.span < window.nanos) ∧
    (i.span < window.nanos →
      i.randomWindow window k = (.error (.windowTooLarge window i.duration), k)) ∧
    (window.nanos ≤ i.span →
      ∃ w k', i.randomWindow window k = (.ok w, k') ∧ i.Within window w) ∧
    (window.nanos = i.span → i.randomWindow window k = (.ok i, k)) := by
  refine ⟨windowInWords?_eq moderate window k, ?_⟩
  rcases i.randomWindow_cases window k with
    ⟨longer, refused⟩ | ⟨whole, taken⟩ | ⟨shorter, offset, w, k', -, -, taken⟩
  · refine ⟨⟨fun _ => longer, fun _ => ⟨_, congrArg Prod.fst refused⟩⟩, fun _ => refused, ?_, ?_⟩
    · intro fits
      omega
    · intro whole
      omega
  · have within := randomWindow_within taken
    refine ⟨?_, ?_, fun _ => ⟨i, k, taken, within⟩, fun _ => taken⟩
    · rw [taken]
      simp [whole]
    · intro longer
      omega
  · have within := randomWindow_within taken
    refine ⟨?_, ?_, fun _ => ⟨w, k', taken, within⟩, ?_⟩
    · rw [taken]
      simp only [reduceCtorEq, exists_false, false_iff]
      omega
    · intro longer
      omega
    · intro whole
      omega

def earliest : Interval := ⟨-0x8000000000000000, -1, by decide, by decide, by decide⟩

theorem earliest_windows_stay_in_words :
    earliest.span ≤ 0x7fffffffffffffff ∧
    windowInWords? earliest.words (.ofHours 1) (.ofSeed 7) =
      some (((earliest.randomWindow (.ofHours 1) (.ofSeed 7)).1.map words),
        (earliest.randomWindow (.ofHours 1) (.ofSeed 7)).2) ∧
    (earliest.randomWindow (.ofHours 1) (.ofSeed 7)).1.toOption.map (fun w => (w.start, w.finish)) =
      some (-8943743847562862924, -8943740247562862924) ∧
    earliest.randomWindow ⟨0x7fffffffffffffff⟩ (.ofSeed 7) = (.ok earliest, .ofSeed 7) ∧
    earliest.randomWindow (.ofHours (1 <<< 64)) (.ofSeed 7) =
      (.error (.windowTooLarge (.ofHours (1 <<< 64)) earliest.duration), .ofSeed 7) := by
  have moderate : earliest.span ≤ 0x7fffffffffffffff := by decide
  have windows := fun window => windows_stay_in_words earliest moderate window (.ofSeed 7)
  exact ⟨moderate, (windows (.ofHours 1)).1, by decide +kernel,
    (windows ⟨0x7fffffffffffffff⟩).2.2.2.2 rfl,
    (windows (.ofHours (1 <<< 64))).2.2.1 (by decide)⟩

/-- In a longer interval an offset need not be a signed word. -/
example : (windowInWords? (-0x8000000000000000, 0x7fffffffffffffff) (.ofHours 1)
    (.ofSeed 1)).isNone = true := by decide +kernel

end Interval

end QueryBench
