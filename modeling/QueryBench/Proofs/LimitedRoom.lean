import QueryBench.Proofs.Stream

/- Streams for which the room runs out. What got through is the front of the stream that was meant, so
   a reader gets the queries whose frames are whole, and sees whether the cut is between two frames. -/
namespace QueryBench.Stream

def frames (qs : List Query) : List UInt8 := qs.flatMap fun q => frame (Codec.encode q)

theorem frames_cons (q : Query) (qs : List Query) :
    frames (q :: qs) = frame (Codec.encode q) ++ frames qs := List.flatMap_cons

theorem length_frame (payload : List UInt8) :
    (frame payload).length = headerSize + payload.length := by
  rw [frame_heading, List.length_append, length_heading]

/-- The queries whose bytes a frame can take. -/
def kept (qs : List Query) : List Query :=
  qs.filter fun q => (Codec.encode q).length ≤ maxPayload

theorem kept_fits {qs : List Query} {q : Query} (member : q ∈ kept qs) :
    (Codec.encode q).length ≤ maxPayload := by
  simpa using (List.mem_filter.mp member).2

/-- How many of the frames end within so many bytes. -/
def wholeFrames (room : Nat) (qs : List Query) : Nat :=
  (List.range qs.length).countP fun j => (frames (qs.take (j + 1))).length ≤ room

theorem wholeFrames_nil (room : Nat) : wholeFrames room [] = 0 := rfl

theorem wholeFrames_cons (room : Nat) (q : Query) (qs : List Query) :
    wholeFrames room (q :: qs) =
      if (frame (Codec.encode q)).length ≤ room then
        wholeFrames (room - (frame (Codec.encode q)).length) qs + 1
      else 0 := by
  have ends : ∀ j, (frames ((q :: qs).take (j + 1))).length =
      (frame (Codec.encode q)).length + (frames (qs.take j)).length := by
    intro j
    rw [List.take_succ_cons, frames_cons, List.length_append]
  have first : (frames (qs.take 0)).length = 0 := rfl
  rw [wholeFrames, List.length_cons, List.range_succ_eq_map, List.countP_cons, List.countP_map]
  simp only [Function.comp_def, ends, first, Nat.add_zero, Nat.succ_eq_add_one]
  by_cases fits : (frame (Codec.encode q)).length ≤ room
  · have rest : ∀ n, decide ((frame (Codec.encode q)).length + n ≤ room) =
        decide (n ≤ room - (frame (Codec.encode q)).length) := by
      intro n
      apply decide_eq_decide.mpr
      omega
    simp only [rest, fits, decide_true, if_true, wholeFrames]
  · have rest : ∀ n, decide ((frame (Codec.encode q)).length + n ≤ room) = false := by
      intro n
      apply decide_eq_false
      omega
    simp [rest, fits]

theorem wholeFrames_zero (qs : List Query) : wholeFrames 0 qs = 0 := by
  cases qs with
  | nil => rfl
  | cons q qs =>
    rw [wholeFrames_cons, length_frame, headerSize, if_neg (by omega)]

/-- A cut through frames falls between two of them, or behind the last. -/
def Between (bs : List UInt8) (qs : List Query) : Prop := ∃ j, bs = frames (qs.take j)

theorem between_nil (qs : List Query) : Between [] qs := ⟨0, by simp [frames]⟩

theorem between_cons {bs : List UInt8} (q : Query) (qs : List Query) :
    Between (frame (Codec.encode q) ++ bs) (q :: qs) ↔ Between bs qs := by
  constructor
  · rintro ⟨j, same⟩
    cases j with
    | zero =>
      have none_ := congrArg List.length same
      rw [List.length_append, length_frame] at none_
      simp only [List.take_zero, frames, List.flatMap_nil, List.length_nil, headerSize] at none_
      omega
    | succ j =>
      rw [List.take_succ_cons, frames_cons] at same
      exact ⟨j, List.append_cancel_left same⟩
  · rintro ⟨j, rfl⟩
    exact ⟨j + 1, by rw [List.take_succ_cons, frames_cons]⟩

theorem not_between_torn {room : Nat} {q : Query} (some_ : 0 < room)
    (less : room < (frame (Codec.encode q)).length) (qs : List Query) :
    ¬ Between ((frame (Codec.encode q)).take room) (q :: qs) := by
  rintro ⟨j, same⟩
  have length := congrArg List.length same
  rw [List.length_take, Nat.min_eq_left (Nat.le_of_lt less)] at length
  cases j with
  | zero =>
    simp only [List.take_zero, frames, List.flatMap_nil, List.length_nil] at length
    omega
  | succ j =>
    rw [List.take_succ_cons, frames_cons, List.length_append] at length
    omega

namespace Writer

def stored (w : Writer) (bs : List UInt8) (left : Nat) : Writer :=
  ⟨{ w.sink with accepted := w.sink.accepted ++ bs, room := some left }, w.written⟩

section Room
variable {w : Writer} {room : Nat} (roomy : w.sink.room = some room) {bs : List UInt8}
include roomy

theorem send_fitting (fits : bs.length ≤ room) :
    w.send bs = (.ok (), w.stored bs (room - bs.length)) := by
  rw [send, Sink.write, roomy]
  simp only [if_pos fits]
  rfl

theorem send_cut (large : room < bs.length) :
    w.send bs = (.error (.io .diskFull), w.stored (bs.take room) 0) := by
  rw [send, Sink.write, roomy]
  simp only [if_neg (Nat.not_le.mpr large)]
  rfl

end Room

/-- Of the bytes that were sent so far, the sink has accepted as many as it had room for. -/
structure Limited (room : Nat) (sent : List UInt8) (w : Writer) : Prop where
  accepted : w.sink.accepted.toList = sent.take room
  left : w.sink.room = some (room - sent.length)

section Send
variable {room : Nat} {sent : List UInt8} {w : Writer} (limited : w.Limited room sent)
include limited

theorem send_limited (bs : List UInt8) :
    (w.send bs).1 = (if bs.length ≤ room - sent.length then .ok () else .error (.io .diskFull)) ∧
      (w.send bs).2.Limited room (sent ++ bs) ∧ (w.send bs).2.written = w.written := by
  have taken : w.sink.accepted.toList ++ bs.take (room - sent.length) = (sent ++ bs).take room := by
    rw [limited.accepted, List.take_append]
  by_cases fits : bs.length ≤ room - sent.length
  · rw [List.take_of_length_le fits] at taken
    rw [send_fitting limited.left fits, if_pos fits]
    refine ⟨rfl, ⟨by simpa [stored] using taken, ?_⟩, rfl⟩
    rw [List.length_append, Nat.sub_add_eq]
    rfl
  · rw [send_cut limited.left (Nat.lt_of_not_le fits), if_neg fits]
    refine ⟨rfl, ⟨by simpa [stored] using taken, ?_⟩, rfl⟩
    simp only [stored, List.length_append, Option.some.injEq]
    omega

theorem write_limited {q : Query} (fits : (Codec.encode q).length ≤ maxPayload) :
    (w.write q).2.Limited room (sent ++ frame (Codec.encode q)) ∧
      (w.write q).2.written = w.written +
        if (frame (Codec.encode q)).length ≤ room - sent.length then 1 else 0 := by
  obtain ⟨result, after, written⟩ := send_limited limited (frame (Codec.encode q))
  rw [write, if_neg (Nat.not_lt.mpr fits)]
  cases sending : w.send (frame (Codec.encode q)) with
  | mk got w' =>
    rw [sending] at result after written
    by_cases whole : (frame (Codec.encode q)).length ≤ room - sent.length
    · rw [if_pos whole] at result ⊢
      cases result
      exact ⟨⟨after.accepted, after.left⟩, congrArg (· + 1) written⟩
    · rw [if_neg whole] at result ⊢
      cases result
      exact ⟨after, written⟩

end Send

theorem start_limited (room : Nat) :
    (start { room := some room }).1 =
        (if identifier.length ≤ room then .ok () else .error (.io .diskFull)) ∧
      (start { room := some room }).2.Limited room identifier ∧
      (start { room := some room }).2.written = 0 := by
  have new : Limited room [] ⟨{ room := some room }, 0⟩ := ⟨List.take_nil.symm, rfl⟩
  exact send_limited new identifier

theorem write_tooLarge (w : Writer) {q : Query} (long : maxPayload < (Codec.encode q).length) :
    w.write q = (.error (.frameTooLarge w.written (Codec.encode q).length), w) := by
  rw [write, if_pos long]

theorem writeEach_limited {room : Nat} {sent : List UInt8} {w : Writer}
    (limited : w.Limited room sent) (qs : List Query) :
    (writeEach qs w).2.Limited room (sent ++ frames (kept qs)) ∧
      (writeEach qs w).2.written = w.written + wholeFrames (room - sent.length) (kept qs) := by
  induction qs generalizing sent w with
  | nil =>
    simp only [writeEach, kept, List.filter_nil, frames, List.flatMap_nil, List.append_nil,
      wholeFrames_nil, Nat.add_zero]
    exact ⟨limited, trivial⟩
  | cons q qs ih =>
    by_cases fits : (Codec.encode q).length ≤ maxPayload
    · have keeps : kept (q :: qs) = q :: kept qs := List.filter_cons_of_pos (by simpa using fits)
      obtain ⟨first, counted⟩ := write_limited limited fits
      obtain ⟨rest, more⟩ := ih first
      rw [writeEach, keeps, frames_cons, wholeFrames_cons, ← List.append_assoc]
      refine ⟨rest, more.trans ?_⟩
      rw [counted, List.length_append, Nat.sub_add_eq]
      split
      · omega
      · -- behind a frame that is cut there is no room for another
        rename_i large
        have none_ : room - sent.length - (frame (Codec.encode q)).length = 0 := by omega
        rw [none_, wholeFrames_zero]
    · have drops : kept (q :: qs) = kept qs := List.filter_cons_of_neg (by simpa using fits)
      have refused := write_tooLarge w (Nat.lt_of_not_le fits)
      rw [writeEach, refused, drops]
      exact ih limited

end Writer

namespace Reader

theorem next_torn {r : Reader} {payload : List UInt8} {room : Nat}
    (holds : r.source.Holds ((frame payload).take room)) (short : payload.length ≤ maxPayload)
    (some_ : 0 < room) (less : room < (frame payload).length) :
    ∃ last, r.next = (.error (.truncated r.read), last) := by
  have size := length_heading payload
  rw [length_frame] at less
  by_cases torn : room < headerSize
  · have length : ((frame payload).take room).length = room := by
      rw [List.length_take, length_frame]
      omega
    have nonempty : (frame payload).take room ≠ [] := List.length_pos_iff.mp (by omega)
    obtain ⟨rest, read, -⟩ := Source.read_holds holds headerSize
    rw [List.take_of_length_le (by omega)] at read
    exact ⟨⟨rest, r.read⟩, by simp [next, read, nonempty, length, torn]⟩
  · have cut : payload.take (room - headerSize) ≠ payload := by
      intro whole
      have length := congrArg List.length whole
      rw [List.length_take] at length
      omega
    rw [frame_heading, List.take_append, List.take_of_length_le (by omega), size] at holds
    obtain ⟨behind, started, left⟩ := next_heading short holds
    obtain ⟨rest, read, -⟩ := Source.read_holds left payload.length
    rw [List.take_take, Nat.min_eq_right (by omega)] at read
    have missing : (payload.take (room - headerSize)).length < payload.length := by
      rw [List.length_take]
      omega
    exact ⟨⟨rest, r.read⟩, by rw [started, body]; simp only [read, if_pos missing]⟩

/-- From the front of some frames a reader gets the queries whose frames are whole. What it sees
behind them tells where the cut is. -/
theorem nexts_front {qs : List Query} (fits : ∀ q ∈ qs, (Codec.encode q).length ≤ maxPayload)
    {room : Nat} {r : Reader} (holds : r.source.Holds ((frames qs).take room)) :
    ∃ ending last, r.nexts (wholeFrames room qs + 1) =
        ((qs.take (wholeFrames room qs)).map (fun q => .ok (some q)) ++ [ending], last) ∧
      (Between ((frames qs).take room) qs → ending = .ok none) ∧
      (¬ Between ((frames qs).take room) qs →
        ending = .error (.truncated (r.read + wholeFrames room qs))) := by
  induction qs generalizing room r with
  | nil =>
    obtain ⟨rest, given, -⟩ := next_end (by simpa [frames] using holds)
    refine ⟨.ok none, ⟨rest, r.read⟩, by simp [wholeFrames_nil, nexts, given], fun _ => rfl, ?_⟩
    intro elsewhere
    exact absurd (by simpa [frames] using between_nil []) elsewhere
  | cons q qs ih =>
    have short := fits q (by simp)
    rw [frames_cons, List.take_append] at holds ⊢
    by_cases whole : (frame (Codec.encode q)).length ≤ room
    · -- the first frame is read whole, and what is cut is the rest
      rw [List.take_of_length_le whole] at holds ⊢
      rw [wholeFrames_cons, if_pos whole, between_cons, List.take_succ_cons, List.map_cons]
      have bound : (Codec.encode q).length < 2 ^ 64 := Nat.lt_of_le_of_lt short (by decide)
      obtain ⟨behind, first, left⟩ := next_frame holds short (Codec.decode_encode bound)
      obtain ⟨ending, last, more, clean, torn⟩ :=
        ih (fun p member => fits p (List.mem_cons_of_mem _ member)) (r := ⟨behind, r.read + 1⟩) left
      refine ⟨ending, last, ?_, clean, ?_⟩
      · rw [nexts, first]
        simp only [more, List.cons_append]
      · intro elsewhere
        rw [torn elsewhere, Nat.add_assoc, Nat.add_comm 1]
    · have less : room < (frame (Codec.encode q)).length := Nat.lt_of_not_le whole
      have none_ : room - (frame (Codec.encode q)).length = 0 := by omega
      rw [none_, List.take_zero, List.append_nil] at holds ⊢
      rw [wholeFrames_cons, if_neg whole, List.take_zero, List.map_nil]
      cases room with
      | zero =>
        obtain ⟨rest, given, -⟩ := next_end holds
        refine ⟨.ok none, ⟨rest, r.read⟩, by simp [nexts, given], fun _ => rfl, ?_⟩
        intro elsewhere
        exact absurd (between_nil (q :: qs)) elsewhere
      | succ room =>
        obtain ⟨last, given⟩ := next_torn holds short (Nat.succ_pos room) less
        refine ⟨.error (.truncated r.read), last, by simp [nexts, given], ?_, fun _ => rfl⟩
        intro between
        exact absurd between (not_between_torn (Nat.succ_pos room) less qs)

theorem start_torn {s : Source} {bs : List UInt8} (holds : s.Holds bs)
    (short : bs.length < identifier.length) : start s = .error .invalidIdentifier := by
  obtain ⟨rest, read, -⟩ := Source.read_holds holds identifier.length
  rw [List.take_of_length_le (Nat.le_of_lt short)] at read
  have other : bs ≠ identifier := by
    intro same
    rw [same] at short
    exact Nat.lt_irrefl _ short
  rw [start, read]
  exact if_neg other

end Reader

theorem encoded_frames (qs : List Query) : encoded qs = identifier ++ frames qs := rfl

theorem between_encoded {room : Nat} (begun : identifier.length ≤ room) (qs : List Query) :
    (∃ j, (encoded qs).take room = encoded (qs.take j)) ↔
      Between ((frames qs).take (room - identifier.length)) qs := by
  rw [encoded_frames, List.take_append, List.take_of_length_le begun]
  constructor
  · rintro ⟨j, same⟩
    exact ⟨j, List.append_cancel_left same⟩
  · rintro ⟨j, same⟩
    exact ⟨j, by rw [same, encoded_frames]⟩

theorem nexts_encoded {qs : List Query} (fits : ∀ q ∈ qs, (Codec.encode q).length ≤ maxPayload)
    {room : Nat} (begun : identifier.length ≤ room) {source : Source}
    (holds : source.Holds ((encoded qs).take room)) :
    ∃ r ending last, Reader.start source = .ok r ∧
      r.nexts (wholeFrames (room - identifier.length) qs + 1) =
        ((qs.take (wholeFrames (room - identifier.length) qs)).map (fun q => .ok (some q)) ++
          [ending], last) ∧
      ((∃ j, (encoded qs).take room = encoded (qs.take j)) → ending = .ok none) ∧
      ((¬ ∃ j, (encoded qs).take room = encoded (qs.take j)) →
        ending = .error (.truncated (wholeFrames (room - identifier.length) qs))) := by
  rw [between_encoded begun]
  rw [encoded_frames, List.take_append, List.take_of_length_le begun] at holds
  obtain ⟨behind, started, left⟩ := Reader.start_identified holds
  obtain ⟨ending, last, given, clean, torn⟩ := Reader.nexts_front fits (r := ⟨behind, 0⟩) left
  refine ⟨_, ending, last, started, given, clean, ?_⟩
  intro elsewhere
  rw [torn elsewhere, Nat.zero_add]

/-- A sink with limited room gets the front of the stream of the queries that frames can take. Those
whose frames are whole are counted, and a reader gets them back; what it sees behind them tells
whether the cut is between two frames. Without room for the identifier there is no stream. -/
theorem limited_room_keeps_whole_frames (qs : List Query) (room : Nat) :
    (room < identifier.length →
      ∃ w, Writer.start { room := some room } = (.error (.io .diskFull), w) ∧
        w.sink.accepted.toList = (encoded (kept qs)).take room ∧ w.written = 0 ∧
        ∀ source : Source, source.Holds w.sink.accepted.toList →
          Reader.start source = .error .invalidIdentifier) ∧
    (identifier.length ≤ room →
      ∃ opened results w, Writer.start { room := some room } = (.ok (), opened) ∧
        Writer.writeEach qs opened = (results, w) ∧
        w.sink.accepted.toList = (encoded (kept qs)).take room ∧
        w.written = wholeFrames (room - identifier.length) (kept qs) ∧
        ∀ source : Source, source.Holds w.sink.accepted.toList →
          ∃ r ending last, Reader.start source = .ok r ∧
            r.nexts (w.written + 1) =
              (((kept qs).take w.written).map (fun q => .ok (some q)) ++ [ending], last) ∧
            ((∃ j, w.sink.accepted.toList = encoded ((kept qs).take j)) → ending = .ok none) ∧
            ((¬ ∃ j, w.sink.accepted.toList = encoded ((kept qs).take j)) →
              ending = .error (.truncated w.written))) ∧
    ∀ (w : Writer) (q : Query), maxPayload < (Codec.encode q).length →
      w.write q = (.error (.frameTooLarge w.written (Codec.encode q).length), w) := by
  obtain ⟨result, after, written⟩ := Writer.start_limited room
  cases starting : Writer.start { room := some room } with
  | mk got opened =>
  rw [starting] at result after written
  refine ⟨?_, ?_, fun w q => Writer.write_tooLarge w⟩
  · intro less
    rw [if_neg (Nat.not_le.mpr less)] at result
    cases result
    have front : opened.sink.accepted.toList = identifier.take room := after.accepted
    refine ⟨opened, rfl, ?_, written, ?_⟩
    · rw [front, encoded_frames, List.take_append_of_le_length (Nat.le_of_lt less)]
    · intro source holds
      apply Reader.start_torn holds
      rw [front, List.length_take]
      omega
  · intro begun
    rw [if_pos begun] at result
    cases result
    obtain ⟨rest, counted⟩ := Writer.writeEach_limited after qs
    cases writing : Writer.writeEach qs opened with
    | mk results w =>
    rw [writing] at rest counted
    have bytes : w.sink.accepted.toList = (encoded (kept qs)).take room := rest.accepted
    have number : w.written = wholeFrames (room - identifier.length) (kept qs) := by
      rw [counted, written]
      exact Nat.zero_add _
    refine ⟨opened, results, w, rfl, writing, bytes, number, ?_⟩
    intro source holds
    rw [bytes] at holds
    rw [bytes, number]
    exact nexts_encoded (fun q => kept_fits) begun holds

theorem pair_torn :
    (identifier.length ≤ 60 ∧ ¬ ∃ j, (encoded (kept pair)).take 60 = encoded ((kept pair).take j)) ∧
      ∃ opened results w, Writer.start { room := some 60 } = (.ok (), opened) ∧
        Writer.writeEach pair opened = (results, w) ∧ w.written = 1 ∧
        ∀ source : Source, source.Holds w.sink.accepted.toList →
          ∃ r last, Reader.start source = .ok r ∧
            r.nexts 2 = ([.ok pair.head?, .error (.truncated 1)], last) := by
  have all : kept pair = pair := by decide
  have begun : identifier.length ≤ 60 := by decide
  have elsewhere : ¬ ∃ j, (encoded (kept pair)).take 60 = encoded ((kept pair).take j) := by
    rw [all]
    rintro ⟨j, same⟩
    have length := congrArg List.length same
    match j with
    | 0 => exact absurd length (by decide)
    | 1 => exact absurd length (by decide)
    | j + 2 =>
      have whole : pair.take (j + 2) = pair := List.take_of_length_le (Nat.le_add_left 2 j)
      rw [whole] at length
      exact absurd length (by decide)
  obtain ⟨opened, results, w, started, ran, bytes, written, back⟩ :=
    (limited_room_keeps_whole_frames pair 60).2.1 begun
  have one : w.written = 1 := written.trans (by decide)
  refine ⟨⟨begun, elsewhere⟩, opened, results, w, started, ran, one, ?_⟩
  intro source holds
  obtain ⟨r, ending, last, first, given, -, torn⟩ := back source holds
  rw [bytes] at torn
  rw [torn elsewhere, one, all] at given
  exact ⟨r, last, first, given⟩

end QueryBench.Stream
