import QueryBench.Proofs.Stream

/- Reading whatever bytes there are. What a reader gives depends on the bytes alone: queries and then
   the end just where the bytes are frames, and the end in time, whatever is wrong with them. -/
namespace QueryBench

namespace Bytes

theorem little_ofLittle (bs : List UInt8) : little bs.length (ofLittle bs) = bs := by
  induction bs with
  | nil => rfl
  | cons b bs ih =>
    have below : b.toNat < 256 := b.toNat_lt
    have low : (b.toNat + 256 * ofLittle bs) % 256 = b.toNat := by omega
    have high : (b.toNat + 256 * ofLittle bs) / 256 = ofLittle bs := by omega
    rw [List.length_cons, little, ofLittle, low, high, ih, UInt8.ofNat_toNat]

theorem big_ofBig (bs : List UInt8) : big bs.length (ofBig bs) = bs := by
  have back := little_ofLittle bs.reverse
  rw [List.length_reverse] at back
  rw [big, ofBig, back, List.reverse_reverse]

end Bytes

namespace Stream

namespace Reader

def isQuery : Except Error (Option Query) → Bool
  | .ok (some _) => true
  | .ok none | .error _ => false

def gained (given : Except Error (Option Query)) : Nat := if isQuery given then 1 else 0

/-- What a call gives where these bytes are left, and the bytes that it leaves in turn. -/
def answer (read : Nat) (bs : List UInt8) : Except Error (Option Query) × List UInt8 :=
  let (length, checksum) := header (bs.take headerSize)
  let left := bs.drop headerSize
  if bs = [] then (.ok none, [])
  else if bs.length < headerSize then (.error (.truncated read), [])
  else if maxPayload < length then (.error (.frameTooLarge read length), left)
  else if left.length < length then (.error (.truncated read), [])
  else ((accept read checksum (left.take length)).map some, left.drop length)

theorem body_holds {r : Reader} {bs : List UInt8} (holds : r.source.Holds bs)
    (length checksum : Nat) :
    (bs.length < length →
      ∃ rest, r.body length checksum = (.error (.truncated r.read), ⟨rest, r.read⟩) ∧
        rest.Holds []) ∧
    (length ≤ bs.length →
      ∃ rest given, r.body length checksum = (given, ⟨rest, r.read + gained given⟩) ∧
        given = (accept r.read checksum (bs.take length)).map some ∧
        rest.Holds (bs.drop length)) := by
  obtain ⟨rest, read, left⟩ := Source.read_holds holds length
  constructor
  · intro short
    rw [List.drop_eq_nil_of_le (Nat.le_of_lt short)] at left
    refine ⟨rest, ?_, left⟩
    rw [body, read, List.take_of_length_le (Nat.le_of_lt short)]
    simp only [if_pos short]
  · intro enough
    have whole : ¬ (bs.take length).length < length := by
      rw [List.length_take]
      omega
    refine ⟨rest, _, ?_, rfl, left⟩
    rw [body, read]
    simp only [if_neg whole]
    cases accept r.read checksum (bs.take length) with
    | error e => rfl
    | ok q => rfl

/-- The deliveries do not matter: a call gives what the bytes that are left call for. -/
theorem next_holds {r : Reader} {bs : List UInt8} (holds : r.source.Holds bs) :
    ∃ rest, r.next = ((answer r.read bs).1, ⟨rest, r.read + gained (answer r.read bs).1⟩) ∧
      rest.Holds (answer r.read bs).2 := by
  obtain ⟨rest, read, left⟩ := Source.read_holds holds headerSize
  simp only [next, read, answer]
  by_cases empty : bs = []
  · subst empty
    exact ⟨rest, rfl, left⟩
  · have some_ : bs.take headerSize ≠ [] := by
      simpa [headerSize] using empty
    rw [if_neg some_, if_neg empty]
    have count : (bs.take headerSize).length = min headerSize bs.length := List.length_take
    by_cases short : bs.length < headerSize
    · rw [if_pos (by omega), if_pos short]
      rw [List.drop_eq_nil_of_le (Nat.le_of_lt short)] at left
      exact ⟨rest, rfl, left⟩
    · rw [if_neg (by omega), if_neg short]
      by_cases large : maxPayload < (header (bs.take headerSize)).1
      · rw [if_pos large, if_pos large]
        exact ⟨rest, rfl, left⟩
      · rw [if_neg large, if_neg large]
        obtain ⟨torn, whole⟩ := body_holds (r := ⟨rest, r.read⟩) left
          (header (bs.take headerSize)).1 (header (bs.take headerSize)).2
        by_cases cut : (bs.drop headerSize).length < (header (bs.take headerSize)).1
        · rw [if_pos cut]
          exact torn cut
        · rw [if_neg cut]
          obtain ⟨last, given, done, rfl, behind⟩ := whole (Nat.le_of_not_lt cut)
          exact ⟨last, done, behind⟩

theorem accept_cases (read checksum : Nat) (payload : List UInt8) :
    (∃ e, accept read checksum payload = .error e) ∨
      ∃ q, accept read checksum payload = .ok q ∧ (Crc32.checksum payload).toNat = checksum ∧
        Codec.decode payload = some q := by
  unfold accept
  split
  · exact .inl ⟨_, rfl⟩
  · rename_i same
    split
    · exact .inl ⟨_, rfl⟩
    · rename_i q spells
      exact .inr ⟨q, rfl, Decidable.not_not.mp same, spells⟩

theorem heading_header {head payload : List UInt8} (size : head.length = headerSize)
    (length : payload.length = (header head).1)
    (checksum : (Crc32.checksum payload).toNat = (header head).2) : heading payload = head := by
  have first : (head.take 4).length = 4 := by
    rw [List.length_take, size]
    rfl
  have second : (head.drop 4).length = 4 := by
    rw [List.length_drop, size]
    rfl
  have front := Bytes.big_ofBig (head.take 4)
  have back := Bytes.big_ofBig (head.drop 4)
  rw [first] at front
  rw [second] at back
  rw [heading, length, checksum, header, front, back, List.take_append_drop]

/-- The bytes begin with a frame that spells the query, and these are the bytes behind it. -/
def Spells (bs : List UInt8) (q : Query) (left : List UInt8) : Prop :=
  ∃ payload, bs = frame payload ++ left ∧ payload.length ≤ maxPayload ∧
    Codec.decode payload = some q

theorem answer_cases (read : Nat) (bs : List UInt8) :
    bs = [] ∧ (answer read bs).1 = .ok none ∨
      bs ≠ [] ∧ (∃ e, (answer read bs).1 = .error e) ∧
        (answer read bs).2.length ≤ bs.length - headerSize ∨
      ∃ q, (answer read bs).1 = .ok (some q) ∧ Spells bs q (answer read bs).2 := by
  unfold answer
  simp only
  by_cases empty : bs = []
  · rw [if_pos empty]
    exact .inl ⟨empty, rfl⟩
  · rw [if_neg empty]
    right
    split
    · exact .inl ⟨empty, ⟨_, rfl⟩, Nat.zero_le _⟩
    · rename_i short
      split
      · exact .inl ⟨empty, ⟨_, rfl⟩, Nat.le_of_eq List.length_drop⟩
      · rename_i large
        split
        · exact .inl ⟨empty, ⟨_, rfl⟩, Nat.zero_le _⟩
        · rename_i cut
          have length := List.length_take_of_le (Nat.le_of_not_lt cut)
          have head := List.length_take_of_le (Nat.le_of_not_lt short)
          rcases accept_cases read (header (bs.take headerSize)).2
              ((bs.drop headerSize).take (header (bs.take headerSize)).1) with
            ⟨e, refused⟩ | ⟨q, accepted, checksum, spells⟩
          · rw [refused]
            refine .inl ⟨empty, ⟨e, rfl⟩, ?_⟩
            rw [List.length_drop, List.length_drop]
            omega
          · rw [accepted]
            refine .inr ⟨q, rfl, _, ?_, ?_, spells⟩
            · rw [frame_heading, heading_header head length checksum, List.append_assoc,
                List.take_append_drop, List.take_append_drop]
            · rw [length]
              exact Nat.le_of_not_lt large

theorem answer_end {read : Nat} {bs : List UInt8} (ended : (answer read bs).1 = .ok none) :
    bs = [] := by
  rcases answer_cases read bs with ⟨empty, -⟩ | ⟨-, ⟨e, failed⟩, -⟩ | ⟨q, given, -⟩
  · exact empty
  · rw [failed] at ended
    cases ended
  · rw [given] at ended
    cases ended

theorem answer_query {read : Nat} {bs : List UInt8} {q : Query}
    (given : (answer read bs).1 = .ok (some q)) : Spells bs q (answer read bs).2 := by
  rcases answer_cases read bs with ⟨-, ended⟩ | ⟨-, ⟨e, failed⟩, -⟩ | ⟨p, other, spells⟩
  · rw [ended] at given
    cases given
  · rw [failed] at given
    cases given
  · rw [other] at given
    cases given
    exact spells

theorem answer_leaves (read : Nat) {bs : List UInt8} (some_ : bs ≠ []) :
    (answer read bs).2.length ≤ bs.length - 8 := by
  rcases answer_cases read bs with ⟨empty, -⟩ | ⟨-, -, left⟩ | ⟨q, -, payload, split, -⟩
  · exact absurd empty some_
  · exact left
  · have length := congrArg List.length split
    rw [List.length_append, frame_heading, List.length_append, length_heading, headerSize] at length
    omega

/-- All answers in front of the end, for a reader that goes on whatever it is given. -/
def answers (read : Nat) (bs : List UInt8) : List (Except Error (Option Query)) :=
  if bs = [] then []
  else
    (answer read bs).1 :: answers (read + gained (answer read bs).1) (answer read bs).2
termination_by bs.length
decreasing_by
  have left := answer_leaves read ‹bs ≠ []›
  have some_ : 0 < bs.length := List.length_pos_iff.mpr ‹_›
  omega

theorem answers_nil (read : Nat) : answers read [] = [] := by rw [answers, if_pos rfl]

theorem answers_more (read : Nat) {bs : List UInt8} (some_ : bs ≠ []) :
    answers read bs =
      (answer read bs).1 :: answers (read + gained (answer read bs).1) (answer read bs).2 := by
  rw [answers, if_neg some_]

theorem length_answers_le (read : Nat) (bs : List UInt8) :
    (answers read bs).length ≤ (bs.length + 7) / 8 := by
  induction read, bs using answers.induct with
  | case1 read =>
    rw [answers_nil]
    exact Nat.zero_le _
  | case2 read bs some_ ih =>
    have left := answer_leaves read some_
    have positive : 0 < bs.length := List.length_pos_iff.mpr some_
    rw [answers_more read some_, List.length_cons]
    omega

theorem end_not_mem_answers (read : Nat) (bs : List UInt8) : .ok none ∉ answers read bs := by
  induction read, bs using answers.induct with
  | case1 read =>
    rw [answers_nil]
    exact List.not_mem_nil
  | case2 read bs some_ ih =>
    rw [answers_more read some_, List.mem_cons]
    rintro (first | later)
    · exact some_ (answer_end first.symm)
    · exact ih later

theorem countP_ends (calls : Nat) :
    (List.replicate calls (.ok none)).countP isQuery = 0 := by
  rw [List.countP_eq_zero]
  intro given member
  rw [List.eq_of_mem_replicate member]
  decide

theorem nexts_answers (read : Nat) {bs : List UInt8} {source : Source} (holds : source.Holds bs)
    (calls : Nat) :
    ∃ rest, nexts calls ⟨source, read⟩ =
      ((answers read bs).take calls ++
          List.replicate (calls - (answers read bs).length) (.ok none),
        ⟨rest, read + ((answers read bs).take calls).countP isQuery⟩) := by
  induction read, bs using answers.induct generalizing source calls with
  | case1 read =>
    obtain ⟨rest, given⟩ := nexts_end (r := ⟨source, read⟩) holds calls
    exact ⟨rest, by simp [answers_nil, given]⟩
  | case2 read bs some_ ih =>
    cases calls with
    | zero => exact ⟨source, by simp [nexts]⟩
    | succ calls =>
      obtain ⟨behind, first, left⟩ := next_holds (r := ⟨source, read⟩) holds
      obtain ⟨rest, more⟩ := ih left calls
      refine ⟨rest, ?_⟩
      have later : calls + 1 - ((answers (read + gained (answer read bs).1)
          (answer read bs).2).length + 1) =
            calls - (answers (read + gained (answer read bs).1) (answer read bs).2).length :=
        Nat.add_sub_add_right _ _ _
      have count : ∀ n, read + (n + gained (answer read bs).1) =
          read + gained (answer read bs).1 + n := by omega
      rw [answers_more read some_, List.take_succ_cons, List.countP_cons, List.length_cons, later,
        ← gained, count, nexts, first]
      simp only [more, List.cons_append]

/-- Queries and then the end: the bytes are their frames. -/
theorem framed_of_nexts {r : Reader} {bs : List UInt8} (holds : r.source.Holds bs) {qs : List Query}
    (given : (r.nexts (qs.length + 1)).1 = qs.map (fun q => .ok (some q)) ++ [.ok none]) :
    Framed bs qs := by
  induction qs generalizing r bs with
  | nil =>
    obtain ⟨behind, first, -⟩ := next_holds holds
    rw [List.length_nil, nexts, first] at given
    rw [answer_end (List.cons.inj given).1]
    exact .nil
  | cons q qs ih =>
    obtain ⟨behind, first, left⟩ := next_holds holds
    rw [List.length_cons, nexts, first] at given
    obtain ⟨query, others⟩ := List.cons.inj given
    obtain ⟨payload, split, short, spells⟩ := answer_query query
    rw [split]
    exact .cons short spells (ih left others)

theorem start_foreign {source : Source} {bs : List UInt8} (holds : source.Holds bs)
    (foreign : ¬ identifier <+: bs) : start source = .error .invalidIdentifier := by
  obtain ⟨rest, read, -⟩ := Source.read_holds holds identifier.length
  have other : bs.take identifier.length ≠ identifier := by
    intro same
    exact foreign (same ▸ List.take_prefix _ bs)
  rw [start, read]
  exact if_neg other

end Reader

/-- A stream opens just where it begins with the identifier. What a reader then gives are some answers,
which the bytes alone decide, no more than there are headers in the bytes, and behind them the end for
ever. They are queries and nothing else just where the bytes are frames of these queries; and at all
times the reader knows how many queries it has given. -/
theorem reading_accepts_exactly_frames (bs : List UInt8) :
    (¬ identifier <+: bs →
      ∀ source : Source, source.Holds bs → Reader.start source = .error .invalidIdentifier) ∧
    ∀ rest, bs = identifier ++ rest →
      ∃ answers : List (Except Error (Option Query)),
        answers.length ≤ (rest.length + 7) / 8 ∧ .ok none ∉ answers ∧
        ∀ source : Source, source.Holds bs → ∃ r, Reader.start source = .ok r ∧
          (∀ calls, (r.nexts calls).1 =
              answers.take calls ++ List.replicate (calls - answers.length) (.ok none) ∧
            (r.nexts calls).2.read = (r.nexts calls).1.countP Reader.isQuery) ∧
          ∀ qs : List Query,
            (r.nexts (qs.length + 1)).1 = qs.map (fun q => .ok (some q)) ++ [.ok none] ↔
              Framed rest qs := by
  constructor
  · intro foreign source holds
    exact Reader.start_foreign holds foreign
  · rintro rest rfl
    refine ⟨Reader.answers 0 rest, Reader.length_answers_le 0 rest,
      Reader.end_not_mem_answers 0 rest, ?_⟩
    intro source holds
    obtain ⟨behind, started, left⟩ := Reader.start_identified holds
    refine ⟨_, started, ?_, ?_⟩
    · intro calls
      obtain ⟨last, given⟩ := Reader.nexts_answers 0 left calls
      rw [given]
      refine ⟨rfl, ?_⟩
      rw [List.countP_append, Reader.countP_ends, Nat.zero_add, Nat.add_zero]
    · intro qs
      constructor
      · exact Reader.framed_of_nexts left
      · intro framed
        obtain ⟨last, given⟩ := Reader.nexts_framed framed (r := ⟨behind, 0⟩) left 1
        rw [given]
        rfl

def damaged : List UInt8 :=
  Bytes.big 4 (maxPayload + 1) ++ Bytes.big 4 0 ++ frame (Codec.encode { label := "a" }) ++ [1, 2, 3]

def interrupted : Source :=
  { deliveries := .interrupted :: Source.runOf (identifier ++ damaged) ++ [.interrupted] }

theorem damaged_is_read :
    (¬ identifier <+: damaged ∧ (Source.ofBytes damaged).Holds damaged ∧
      interrupted.Holds (identifier ++ damaged)) ∧
      Reader.start (.ofBytes damaged) = .error .invalidIdentifier ∧
      ∃ answers : List (Except Error (Option Query)),
        answers.length ≤ (damaged.length + 7) / 8 ∧ .ok none ∉ answers ∧
        ∃ r, Reader.start interrupted = .ok r ∧ (r.nexts 3).1 = answers.take 3 ++
            List.replicate (3 - answers.length) (.ok none) ∧
          (r.nexts 3).2.read = 1 ∧ ¬ Framed damaged [{ label := "a" }] := by
  have foreign : ¬ identifier <+: damaged := by decide
  have held := Source.ofBytes_holds damaged
  have holds : interrupted.Holds (identifier ++ damaged) := ⟨rfl, by decide +kernel⟩
  obtain ⟨answers, few, going, read⟩ :=
    (reading_accepts_exactly_frames (identifier ++ damaged)).2 damaged rfl
  obtain ⟨r, started, given, exact_⟩ := read interrupted holds
  have told : (Reader.start interrupted).toOption.map (fun r =>
      ((r.nexts 3).1.countP Reader.isQuery, (r.nexts 2).1.map Reader.isQuery)) =
        some (1, [false, true]) := by decide +kernel
  rw [started] at told
  obtain ⟨one, second⟩ := Prod.mk.inj (Option.some.inj told)
  refine ⟨⟨foreign, held, holds⟩,
    (reading_accepts_exactly_frames damaged).1 foreign _ held, answers, few, going, r, started,
    (given 3).1, (given 3).2.trans one, ?_⟩
  intro framed
  have clean := (exact_ _).mpr framed
  have first := congrArg (List.map Reader.isQuery) clean
  simp only [List.length_singleton] at first
  rw [second] at first
  exact absurd first (by decide)

end Stream

end QueryBench
