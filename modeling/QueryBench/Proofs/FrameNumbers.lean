import QueryBench.Proofs.Grammar

/- The numbers in the errors of a reader. It counts the queries that it has given and not the frames
   that it has seen, so behind a frame without a query the numbers fall behind the places. -/
namespace QueryBench.Stream

/-- A frame that nobody has checked. Its length is that of its payload; whether the checksum is, and
whether the payload spells a query, is open. -/
structure Unchecked where
  checksum : UInt32
  payload : List UInt8
  short : payload.length ≤ maxPayload

namespace Unchecked

def heading (f : Unchecked) : List UInt8 :=
  Bytes.big 4 f.payload.length ++ Bytes.big 4 f.checksum.toNat

def bytes (f : Unchecked) : List UInt8 := f.heading ++ f.payload

def sound (f : Unchecked) : Bool :=
  Crc32.checksum f.payload = f.checksum ∧ (Codec.decode f.payload).isSome

/-- What a call gives that reads the frame, behind so many queries. -/
def reply (f : Unchecked) (read : Nat) : Except Error (Option Query) :=
  (Reader.accept read f.checksum.toNat f.payload).map some

theorem length_heading (f : Unchecked) : f.heading.length = headerSize := by
  simp [heading, Bytes.length_big, headerSize]

theorem bytes_nonempty (f : Unchecked) (bs : List UInt8) : f.bytes ++ bs ≠ [] := by
  intro empty
  have none_ := congrArg List.length empty
  rw [bytes, List.length_append, List.length_append, length_heading, headerSize,
    List.length_nil] at none_
  omega

theorem gained_reply (f : Unchecked) (read : Nat) :
    Reader.gained (f.reply read) = if f.sound then 1 else 0 := by
  by_cases same : Crc32.checksum f.payload = f.checksum
  · cases spells : Codec.decode f.payload with
    | none => simp [reply, Reader.accept, sound, same, spells, Except.map, Reader.gained,
        Reader.isQuery]
    | some q => simp [reply, Reader.accept, sound, same, spells, Except.map, Reader.gained,
        Reader.isQuery]
  · have other : (Crc32.checksum f.payload).toNat ≠ f.checksum.toNat :=
      fun numbers => same (UInt32.toNat_inj.mp numbers)
    simp [reply, Reader.accept, sound, same, other, Except.map, Reader.gained, Reader.isQuery]

theorem reply_error {f : Unchecked} {read : Nat} {e : Error} (failed : f.reply read = .error e) :
    e = .checksumMismatch read ∨ e = .undecodable := by
  unfold reply Reader.accept at failed
  split at failed
  · cases failed
    exact .inl rfl
  · split at failed
    · cases failed
      exact .inr rfl
    · cases failed

end Unchecked

def Torn (tail : List UInt8) : Prop :=
  tail ≠ [] ∧ ∃ f : Unchecked, tail <+: f.bytes ∧ tail ≠ f.bytes

namespace Reader

theorem answer_unchecked (read : Nat) (f : Unchecked) (bs : List UInt8) :
    answer read (f.bytes ++ bs) = (f.reply read, bs) := by
  have head : (f.bytes ++ bs).take headerSize = f.heading := by
    rw [Unchecked.bytes, List.append_assoc, List.take_left' f.length_heading]
  have behind : (f.bytes ++ bs).drop headerSize = f.payload ++ bs := by
    rw [Unchecked.bytes, List.append_assoc, List.drop_left' f.length_heading]
  have long : ¬ (f.bytes ++ bs).length < headerSize := by
    rw [Unchecked.bytes, List.append_assoc, List.length_append, f.length_heading]
    omega
  have whole : ¬ (f.payload ++ bs).length < f.payload.length := by
    rw [List.length_append]
    omega
  rw [answer, head, behind, Unchecked.heading, header_big f.short]
  simp only [if_neg (f.bytes_nonempty bs), if_neg long, if_neg (Nat.not_lt.mpr f.short),
    if_neg whole, List.take_left, List.drop_left]
  rfl

theorem answer_torn (read : Nat) {tail : List UInt8} (torn : Torn tail) :
    answer read tail = (.error (.truncated read), []) := by
  obtain ⟨some_, f, front, other⟩ := torn
  have short : tail.length < f.bytes.length :=
    Nat.lt_of_le_of_ne front.length_le fun same => other (front.eq_of_length same)
  rw [Unchecked.bytes, List.length_append, f.length_heading] at short
  simp only [answer, if_neg some_]
  by_cases inHeader : tail.length < headerSize
  · rw [if_pos inHeader]
  · have head : tail.take headerSize = f.heading := by
      obtain ⟨rest, whole⟩ := front
      calc tail.take headerSize = (tail ++ rest).take headerSize :=
            (List.take_append_of_le_length (Nat.le_of_not_lt inHeader)).symm
        _ = f.heading := by rw [whole, Unchecked.bytes, List.take_left' f.length_heading]
    have cut : (tail.drop headerSize).length < f.payload.length := by
      rw [List.length_drop]
      omega
    rw [if_neg inHeader, head, Unchecked.heading, header_big f.short,
      if_neg (Nat.not_lt.mpr f.short), if_pos cut]

end Reader

/-- What the calls give that read these frames and what has broken off behind them, each with the
number of queries in front. -/
def replies (read : Nat) (fs : List Unchecked) (tail : List UInt8) :
    List (Except Error (Option Query)) :=
  fs.mapIdx (fun k f => f.reply (read + (fs.take k).countP Unchecked.sound)) ++
    if tail = [] then [] else [.error (.truncated (read + fs.countP Unchecked.sound))]

theorem replies_cons (read : Nat) (f : Unchecked) (fs : List Unchecked) (tail : List UInt8) :
    replies read (f :: fs) tail =
      f.reply read :: replies (read + if f.sound then 1 else 0) fs tail := by
  have swap : ∀ n, read + (n + if f.sound then 1 else 0) =
      (read + if f.sound then 1 else 0) + n := by omega
  simp only [replies, List.mapIdx_cons, List.take_succ_cons, List.take_zero, List.countP_nil,
    List.countP_cons, Nat.add_zero, List.cons_append, swap]

theorem Reader.answers_replies (read : Nat) (fs : List Unchecked) {tail : List UInt8}
    (torn : tail = [] ∨ Torn tail) :
    answers read (fs.flatMap Unchecked.bytes ++ tail) = replies read fs tail := by
  induction fs generalizing read with
  | nil =>
    rcases torn with rfl | torn
    · exact answers_nil read
    · rw [List.flatMap_nil, List.nil_append, answers_more read torn.1, answer_torn read torn,
        answers_nil, replies, if_neg torn.1]
      rfl
  | cons f fs ih =>
    rw [List.flatMap_cons, List.append_assoc, answers_more read (f.bytes_nonempty _),
      answer_unchecked, replies_cons]
    simp only [f.gained_reply, ih]

/-- The errors that a reader can give behind so many queries, unless its source fails. -/
def Error.Behind (read : Nat) (e : Error) : Prop :=
  e = .checksumMismatch read ∨ e = .truncated read ∨ e = .undecodable

theorem replies_error {fs : List Unchecked} {tail : List UInt8} {k : Nat} {e : Error}
    (failed : (replies 0 fs tail)[k]? = some (.error e)) :
    k ≤ fs.length ∧ e.Behind ((fs.take k).countP Unchecked.sound) := by
  have length : (fs.mapIdx fun k f => f.reply (0 + (fs.take k).countP Unchecked.sound)).length =
      fs.length := List.length_mapIdx
  rw [replies] at failed
  rcases Nat.lt_or_ge k fs.length with inside | behind
  · rw [List.getElem?_append_left (by omega), List.getElem?_mapIdx,
      List.getElem?_eq_getElem inside, Option.map_some, Nat.zero_add] at failed
    refine ⟨Nat.le_of_lt inside, ?_⟩
    rcases Unchecked.reply_error (Option.some.inj failed) with mismatch | undecodable
    · exact .inl mismatch
    · exact .inr (.inr undecodable)
  · rw [List.getElem?_append_right (by omega), length] at failed
    split at failed
    · cases failed
    · rw [List.getElem?_singleton] at failed
      split at failed
      · have last : k = fs.length := by omega
        subst last
        cases failed
        rw [List.take_length, Nat.zero_add]
        exact ⟨Nat.le_refl _, .inr (.inl rfl)⟩
      · cases failed

/-- A reader goes on behind an error and gives at each place what the frame there calls for. But the
number in an error is that of the queries so far, so it is the place of the frame exactly if all
frames in front are sound, and lags behind it otherwise. -/
theorem errors_count_the_queries (fs : List Unchecked) {tail : List UInt8}
    (torn : tail = [] ∨ Torn tail) {source : Source}
    (holds : source.Holds (identifier ++ (fs.flatMap Unchecked.bytes ++ tail))) :
    ∃ r : Reader, Reader.start source = .ok r ∧
      (∀ calls, (r.nexts calls).1 = (replies 0 fs tail).take calls ++
        List.replicate (calls - (replies 0 fs tail).length) (.ok none)) ∧
      ∀ calls k e, (r.nexts calls).1[k]? = some (.error e) →
        ∃ n, e.Behind n ∧ n = (fs.take k).countP Unchecked.sound ∧ n ≤ k ∧ k ≤ fs.length ∧
          (n = k ↔ ∀ f ∈ fs.take k, f.sound = true) := by
  obtain ⟨behind, started, left⟩ := Reader.start_identified holds
  have given : ∀ calls, (Reader.nexts calls ⟨behind, 0⟩).1 = (replies 0 fs tail).take calls ++
      List.replicate (calls - (replies 0 fs tail).length) (.ok none) := by
    intro calls
    obtain ⟨rest, given⟩ := Reader.nexts_answers 0 left calls
    rw [given, Reader.answers_replies 0 fs torn]
  refine ⟨_, started, given, ?_⟩
  intro calls k e failed
  have inReplies : (replies 0 fs tail)[k]? = some (.error e) := by
    rw [given, List.getElem?_append] at failed
    split at failed
    · rw [List.getElem?_take] at failed
      split at failed
      · exact failed
      · cases failed
    · obtain ⟨_, ended⟩ := List.getElem?_eq_some_iff.mp failed
      rw [List.getElem_replicate] at ended
      cases ended
  obtain ⟨place, numbered⟩ := replies_error inReplies
  have length : (fs.take k).length = k := List.length_take_of_le place
  refine ⟨_, numbered, rfl, ?_, place, ?_⟩
  · exact Nat.le_trans List.countP_le_length (Nat.le_of_eq length)
  · rw [← List.countP_eq_length, length]

def Unchecked.zero : Unchecked := ⟨0, [0], by decide⟩

def zeros : Source :=
  .ofBytes (identifier ++ ([Unchecked.zero, .zero].flatMap Unchecked.bytes ++ [0]))

theorem zeros_count_no_queries :
    ∃ r : Reader, Reader.start zeros = .ok r ∧
      (r.nexts 4).1 = [.error (.checksumMismatch 0), .error (.checksumMismatch 0),
        .error (.truncated 0), .ok none] := by
  have torn : Torn [0] := ⟨by decide, .zero, by decide, by decide⟩
  obtain ⟨r, started, given, -⟩ := errors_count_the_queries [.zero, .zero] (.inr torn)
    (Source.ofBytes_holds _)
  exact ⟨r, started, given 4⟩

/-- The second of two such frames is at place 1. -/
theorem number_is_not_the_place :
    ¬ ∀ (fs : List Unchecked) (source : Source) (r : Reader),
      source.Holds (identifier ++ fs.flatMap Unchecked.bytes) → Reader.start source = .ok r →
        ∀ calls k n : Nat,
          (r.nexts calls).1[k]? = some (.error (.checksumMismatch n)) → n = k := by
  intro places
  have second := places [.zero, .zero] _ _ (Source.ofBytes_holds _) rfl 2 1 0 rfl
  exact absurd second (by decide)

end QueryBench.Stream
