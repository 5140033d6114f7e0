import QueryBench.Proofs.Codec
import QueryBench.Proofs.Source
import QueryBench.Stream.Reader
import QueryBench.Stream.Writer

/- Streams that carry queries: what a writer puts out is one of them, and a reader gets its queries
   back and then sees the end, wherever the source cuts the bytes. -/
namespace QueryBench

theorem Sink.write_ok {s after : Sink} {bs : List UInt8} (wrote : s.write bs = (.ok (), after)) :
    after.accepted.toList = s.accepted.toList ++ bs := by
  unfold write at wrote
  split at wrote
  · cases wrote
    simp
  · split at wrote
    · cases wrote
      simp
    · cases wrote

namespace Stream

/-- Frames one behind the other, each with a payload that spells a query. -/
inductive Framed : List UInt8 → List Query → Prop where
  | nil : Framed [] []
  | cons {payload rest : List UInt8} {q : Query} {qs : List Query}
      (short : payload.length ≤ maxPayload) (spells : Codec.decode payload = some q)
      (tail : Framed rest qs) : Framed (frame payload ++ rest) (q :: qs)

/-- The whole stream that a writer makes of queries. -/
def encoded (qs : List Query) : List UInt8 :=
  identifier ++ qs.flatMap fun q => frame (Codec.encode q)

def heading (payload : List UInt8) : List UInt8 :=
  Bytes.big 4 payload.length ++ Bytes.big 4 (Crc32.checksum payload).toNat

theorem frame_heading (payload : List UInt8) : frame payload = heading payload ++ payload := rfl

theorem length_heading (payload : List UInt8) : (heading payload).length = headerSize := by
  simp [heading, Bytes.length_big, headerSize]

theorem framed_encoded {qs : List Query} (fits : ∀ q ∈ qs, (Codec.encode q).length ≤ maxPayload) :
    Framed (qs.flatMap fun q => frame (Codec.encode q)) qs := by
  induction qs with
  | nil => exact .nil
  | cons q qs ih =>
    have short := fits q (by simp)
    have bound : (Codec.encode q).length < 2 ^ 64 := Nat.lt_of_le_of_lt short (by decide)
    exact .cons short (Codec.decode_encode bound) (ih fun p member => fits p (by simp [member]))

namespace Writer

/-- Calls `write` for every query, also behind one that failed. -/
def writeEach : List Query → Writer → List (Except Error Unit) × Writer
  | [], w => ([], w)
  | q :: qs, w =>
      let (result, w) := w.write q
      let (results, w) := writeEach qs w
      (result :: results, w)

def Unlimited (w : Writer) : Prop := w.sink.room = none

def took (w : Writer) (bs : List UInt8) (n : Nat) : Writer :=
  ⟨{ w.sink with accepted := w.sink.accepted ++ bs }, w.written + n⟩

theorem took_unlimited {w : Writer} (free : w.Unlimited) (bs : List UInt8) (n : Nat) :
    (w.took bs n).Unlimited := free

theorem took_took (w : Writer) (bs cs : List UInt8) (m n : Nat) :
    (w.took bs m).took cs n = w.took (bs ++ cs) (m + n) := by
  have bytes : w.sink.accepted ++ bs ++ cs = w.sink.accepted ++ (bs ++ cs) := by
    apply Array.toList_inj.mp
    simp
  simp [took, bytes, Nat.add_assoc]

theorem send_unlimited {w : Writer} (free : w.Unlimited) (bs : List UInt8) :
    w.send bs = (.ok (), w.took bs 0) := by
  obtain ⟨⟨accepted, room, flushFails⟩, written⟩ := w
  cases free
  rfl

theorem send_ok {w after : Writer} {bs : List UInt8} (sent : w.send bs = (.ok (), after)) :
    after.sink.accepted.toList = w.sink.accepted.toList ++ bs := by
  cases wrote : w.sink.write bs with
  | mk result sink =>
    rw [send, wrote] at sent
    cases result with
    | error fault => cases sent
    | ok _ =>
      cases sent
      exact Sink.write_ok wrote

theorem write_ok {w after : Writer} {q : Query} (wrote : w.write q = (.ok (), after)) :
    (Codec.encode q).length ≤ maxPayload ∧
      after.sink.accepted.toList = w.sink.accepted.toList ++ frame (Codec.encode q) := by
  rw [write] at wrote
  split at wrote
  · cases wrote
  · rename_i fits
    cases sending : w.send (frame (Codec.encode q)) with
    | mk result sent =>
      rw [sending] at wrote
      cases result with
      | error e => cases wrote
      | ok _ =>
        have bytes := send_ok sending
        cases wrote
        exact ⟨Nat.le_of_not_lt fits, bytes⟩

theorem write_unlimited {w : Writer} (free : w.Unlimited) {q : Query}
    (fits : (Codec.encode q).length ≤ maxPayload) :
    w.write q = (.ok (), w.took (frame (Codec.encode q)) 1) := by
  rw [write, if_neg (Nat.not_lt.mpr fits), send_unlimited free]
  rfl

theorem write_sink (w : Writer) {q : Query} (fits : (Codec.encode q).length ≤ maxPayload) :
    (w.write q).2.sink = (w.sink.write (frame (Codec.encode q))).2 := by
  rw [write, if_neg (Nat.not_lt.mpr fits), send]
  cases w.sink.write (frame (Codec.encode q)) with
  | mk result sink =>
    cases result with
    | ok _ => rfl
    | error fault => rfl

theorem writeEach_unlimited {w : Writer} (free : w.Unlimited) {qs : List Query}
    (fits : ∀ q ∈ qs, (Codec.encode q).length ≤ maxPayload) :
    writeEach qs w = (qs.map fun _ => .ok (),
      w.took (qs.flatMap fun q => frame (Codec.encode q)) qs.length) := by
  induction qs generalizing w with
  | nil => simp [writeEach, took]
  | cons q qs ih =>
    have first := write_unlimited free (fits q (by simp))
    have more := ih (took_unlimited free (frame (Codec.encode q)) 1)
      fun p member => fits p (by simp [member])
    simp [writeEach, first, more, took_took, Nat.add_comm 1]

def begun : Writer := took ⟨{}, 0⟩ identifier 0

theorem begun_unlimited : begun.Unlimited := rfl

theorem start_unlimited : start {} = (.ok (), begun) :=
  send_unlimited (w := ⟨{}, 0⟩) rfl identifier

theorem begun_took (bs : List UInt8) (n : Nat) :
    (begun.took bs n).sink.accepted.toList = identifier ++ bs ∧ (begun.took bs n).written = n := by
  simp [begun, took]

end Writer

namespace Reader

/-- What so many calls in a row give, and the reader behind them. -/
def nexts : Nat → Reader → List (Except Error (Option Query)) × Reader
  | 0, r => ([], r)
  | calls + 1, r =>
      let (given, r) := r.next
      let (more, r) := nexts calls r
      (given :: more, r)

theorem start_has {s : Source} {bs : List UInt8} {failure? : Option Fault}
    (has : s.Has (identifier ++ bs) failure?) :
    ∃ rest, start s = .ok ⟨rest, 0⟩ ∧ rest.Has bs failure? := by
  obtain ⟨rest, read, left⟩ := Source.read_has has
  exact ⟨rest, by simp [start, read], left⟩

theorem start_identified {s : Source} {bs : List UInt8} (holds : s.Holds (identifier ++ bs)) :
    ∃ rest, start s = .ok ⟨rest, 0⟩ ∧ rest.Holds bs := by
  obtain ⟨rest, opened, left⟩ := start_has (Source.holds_has holds)
  exact ⟨rest, opened, Source.has_holds left⟩

theorem next_end {r : Reader} (holds : r.source.Holds []) :
    ∃ rest, r.next = (.ok none, ⟨rest, r.read⟩) ∧ rest.Holds [] := by
  obtain ⟨rest, read, left⟩ := Source.read_nothing holds headerSize
  exact ⟨rest, by simp [next, read], left⟩

theorem header_big {length : Nat} (short : length ≤ maxPayload) (checksum : UInt32) :
    header (Bytes.big 4 length ++ Bytes.big 4 checksum.toNat) = (length, checksum.toNat) := by
  have length_ : length < 256 ^ 4 := Nat.lt_of_le_of_lt short (by decide)
  have checksum_ : checksum.toNat < 256 ^ 4 := checksum.toNat_lt
  rw [header, List.take_left' (Bytes.length_big 4 _), List.drop_left' (Bytes.length_big 4 _),
    Bytes.ofBig_big length_, Bytes.ofBig_big checksum_]

theorem next_has_heading {r : Reader} {payload bs : List UInt8} {failure? : Option Fault}
    (short : payload.length ≤ maxPayload) (has : r.source.Has (heading payload ++ bs) failure?) :
    ∃ behind, r.next = body ⟨behind, r.read⟩ payload.length (Crc32.checksum payload).toNat ∧
      behind.Has bs failure? := by
  have size := length_heading payload
  have nonempty : heading payload ≠ [] := by
    intro empty
    simp [empty, headerSize] at size
  obtain ⟨behind, readHead, left⟩ := Source.read_has has
  rw [size] at readHead
  have parsed : header (heading payload) = _ := header_big short (Crc32.checksum payload)
  exact ⟨behind, by simp [next, readHead, nonempty, size, parsed, Nat.not_lt.mpr short], left⟩

theorem next_heading {r : Reader} {payload bs : List UInt8} (short : payload.length ≤ maxPayload)
    (holds : r.source.Holds (heading payload ++ bs)) :
    ∃ behind, r.next = body ⟨behind, r.read⟩ payload.length (Crc32.checksum payload).toNat ∧
      behind.Holds bs := by
  obtain ⟨behind, started, left⟩ := next_has_heading short (Source.holds_has holds)
  exact ⟨behind, started, Source.has_holds left⟩

/-- The query of a frame is read, whatever stands behind the frame. -/
theorem next_has_frame {r : Reader} {payload bs : List UInt8} {q : Query} {failure? : Option Fault}
    (has : r.source.Has (frame payload ++ bs) failure?) (short : payload.length ≤ maxPayload)
    (spells : Codec.decode payload = some q) :
    ∃ rest, r.next = (.ok (some q), ⟨rest, r.read + 1⟩) ∧ rest.Has bs failure? := by
  rw [frame_heading, List.append_assoc] at has
  obtain ⟨behind, started, left⟩ := next_has_heading short has
  obtain ⟨rest, readPayload, left⟩ := Source.read_has left
  refine ⟨rest, ?_, left⟩
  simp [started, body, readPayload, accept, spells]

theorem next_frame {r : Reader} {payload bs : List UInt8} {q : Query}
    (holds : r.source.Holds (frame payload ++ bs)) (short : payload.length ≤ maxPayload)
    (spells : Codec.decode payload = some q) :
    ∃ rest, r.next = (.ok (some q), ⟨rest, r.read + 1⟩) ∧ rest.Holds bs := by
  obtain ⟨rest, given, left⟩ := next_has_frame (Source.holds_has holds) short spells
  exact ⟨rest, given, Source.has_holds left⟩

theorem nexts_end {r : Reader} (holds : r.source.Holds []) (calls : Nat) :
    ∃ rest, nexts calls r = (List.replicate calls (.ok none), ⟨rest, r.read⟩) := by
  induction calls generalizing r with
  | zero => exact ⟨r.source, rfl⟩
  | succ calls ih =>
    obtain ⟨rest, first, left⟩ := next_end holds
    obtain ⟨last, more⟩ := ih (r := ⟨rest, r.read⟩) left
    exact ⟨last, by simp [nexts, first, more, List.replicate_succ]⟩

theorem nexts_framed {bs : List UInt8} {qs : List Query} (framed : Framed bs qs) {r : Reader}
    (holds : r.source.Holds bs) (further : Nat) :
    ∃ rest, nexts (qs.length + further) r =
      (qs.map (fun q => .ok (some q)) ++ List.replicate further (.ok none),
        ⟨rest, r.read + qs.length⟩) := by
  induction framed generalizing r with
  | nil => simpa using nexts_end holds further
  | @cons payload bs q qs short spells tail ih =>
    obtain ⟨behind, first, left⟩ := next_frame holds short spells
    obtain ⟨rest, more⟩ := ih (r := ⟨behind, r.read + 1⟩) left
    refine ⟨rest, ?_⟩
    rw [List.length_cons, Nat.add_right_comm]
    simp [nexts, first, more, Nat.add_assoc, Nat.add_comm 1]

end Reader

/-- The payload of the frame that is written for a query spells this query and no other, with every
field as it was, also where a number or the length of a text takes more bytes than below. So whoever
reads the frame gets the query back, whatever stands behind it. -/
theorem payload_spells_its_query {q : Query} (fits : (Codec.encode q).length ≤ maxPayload)
    (w : Writer) :
    ∃ payload : List UInt8, payload.length ≤ maxPayload ∧
      (w.write q).2.sink = (w.sink.write (frame payload)).2 ∧
      (w.Unlimited → w.write q = (.ok (), w.took (frame payload) 1)) ∧
      (frame payload).drop headerSize = payload ∧ Codec.decode payload = some q ∧
      ∀ (r : Reader) (bs : List UInt8), r.source.Holds (frame payload ++ bs) →
        ∃ rest, r.next = (.ok (some q), ⟨rest, r.read + 1⟩) ∧ rest.Holds bs := by
  have bound : (Codec.encode q).length < 2 ^ 64 := Nat.lt_of_le_of_lt fits (by decide)
  have spells := Codec.decode_encode bound
  refine ⟨Codec.encode q, fits, w.write_sink fits, ?_, ?_, spells, ?_⟩
  · intro free
    exact Writer.write_unlimited free fits
  · rw [frame_heading, ← length_heading (Codec.encode q), List.drop_left]
  · intro r bs holds
    exact Reader.next_frame holds fits spells

def broad : Query :=
  { id := 4294967296
    label := String.ofList (List.replicate 127 'ö')
    description := String.ofList (List.replicate 255 'a')
    affinity := some ""
    payload := .sql "" "größe" }

theorem broad_is_spelled :
    (Codec.encode broad).length ≤ maxPayload ∧
      ∃ payload : List UInt8, payload.length ≤ maxPayload ∧
        (Writer.begun.write broad).2.sink = (Writer.begun.sink.write (frame payload)).2 ∧
        (Writer.begun.Unlimited → Writer.begun.write broad =
          (.ok (), Writer.begun.took (frame payload) 1)) ∧
        (frame payload).drop headerSize = payload ∧ Codec.decode payload = some broad ∧
        ∀ (r : Reader) (bs : List UInt8), r.source.Holds (frame payload ++ bs) →
          ∃ rest, r.next = (.ok (some broad), ⟨rest, r.read + 1⟩) ∧ rest.Holds bs := by
  have fits : (Codec.encode broad).length ≤ maxPayload := by decide +kernel
  exact ⟨fits, payload_spells_its_query fits Writer.begun⟩

/-- A reader of the bytes gets the queries, and then the end. -/
def Carries (bs : List UInt8) (qs : List Query) : Prop :=
  ∃ r last : Reader, Reader.start (Source.ofBytes bs) = .ok r ∧
    r.nexts (qs.length + 1) = (qs.map (fun q => .ok (some q)) ++ [.ok none], last)

theorem encoded_carries {qs : List Query} (fits : ∀ q ∈ qs, (Codec.encode q).length ≤ maxPayload) :
    Carries (encoded qs) qs := by
  obtain ⟨behind, started, left⟩ := Reader.start_identified (Source.ofBytes_holds (encoded qs))
  obtain ⟨rest, given⟩ := Reader.nexts_framed (framed_encoded fits) (r := ⟨behind, 0⟩) left 1
  exact ⟨_, _, started, given⟩

/-- Queries whose bytes fit into frames come back as they were written, in their order, whatever the
runs in which the bytes arrive. Behind the last one there is nothing but the end. -/
theorem written_queries_come_back (qs : List Query)
    (fits : ∀ q ∈ qs, (Codec.encode q).length ≤ maxPayload) :
    ∃ opened w : Writer, Writer.start {} = (.ok (), opened) ∧
      Writer.writeEach qs opened = (qs.map fun _ => .ok (), w) ∧ w.finish = .ok () ∧
      w.written = qs.length ∧
      ∀ source : Source, source.failure? = none →
        Source.content source.deliveries = w.sink.accepted.toList →
        ∃ r : Reader, Reader.start source = .ok r ∧
          ∀ further : Nat, ∃ last : Reader,
            r.nexts (qs.length + further) =
              (qs.map (fun q => .ok (some q)) ++ List.replicate further (.ok none), last) ∧
            last.read = w.written := by
  refine ⟨_, _, Writer.start_unlimited, Writer.writeEach_unlimited Writer.begun_unlimited fits,
    rfl, ?_, ?_⟩
  · exact (Writer.begun_took _ _).2
  · intro source clean same
    have holds : source.Holds (encoded qs) := ⟨clean, by rw [same, (Writer.begun_took _ _).1]; rfl⟩
    obtain ⟨behind, started, left⟩ := Reader.start_identified holds
    refine ⟨_, started, ?_⟩
    intro further
    obtain ⟨rest, given⟩ :=
      Reader.nexts_framed (framed_encoded fits) (r := ⟨behind, 0⟩) left further
    refine ⟨_, given, ?_⟩
    rw [(Writer.begun_took _ _).2]
    exact Nat.zero_add _

def pair : List Query :=
  [{ label := "last row", affinity := some "host_1", payload := .siri "select last()" },
    { id := 300, description := "größe", payload := .sql "cpu" "SELECT 1" }]

theorem pair_comes_back :
    (∀ q ∈ pair, (Codec.encode q).length ≤ maxPayload) ∧
      ∃ opened w : Writer, Writer.start {} = (.ok (), opened) ∧
        Writer.writeEach pair opened = (pair.map fun _ => .ok (), w) ∧ w.finish = .ok () ∧
        w.written = pair.length ∧
        ∀ source : Source, source.failure? = none →
          Source.content source.deliveries = w.sink.accepted.toList →
          ∃ r : Reader, Reader.start source = .ok r ∧
            ∀ further : Nat, ∃ last : Reader,
              r.nexts (pair.length + further) =
                (pair.map (fun q => .ok (some q)) ++ List.replicate further (.ok none), last) ∧
              last.read = w.written :=
  ⟨by decide, written_queries_come_back pair (by decide)⟩

end Stream

end QueryBench
