import QueryBench.Proofs.Checksum
import QueryBench.Proofs.LimitedRoom

/- Streams in which a burst has hit one payload. The reader sees it by the checksum, gives nothing of
   that payload out, and goes on with the frame behind it. -/
namespace QueryBench.Stream

namespace Writer

/-- A query that is too large leaves the stream whole; a sink that fails does not. -/
def Whole (results : List (Except Error Unit)) : Prop :=
  ∀ result ∈ results, ∀ fault, result ≠ .error (.io fault)

theorem send_failed {w after : Writer} {bs : List UInt8} {e : Error}
    (failed : w.send bs = (.error e, after)) : ∃ fault, e = .io fault := by
  cases wrote : w.sink.write bs with
  | mk result sink =>
    rw [send, wrote] at failed
    cases result with
    | ok _ => cases failed
    | error fault =>
      cases failed
      exact ⟨fault, rfl⟩

theorem write_whole {w after : Writer} {q : Query} {result : Except Error Unit}
    (wrote : w.write q = (result, after)) (whole : ∀ fault, result ≠ .error (.io fault)) :
    after.sink.accepted.toList = w.sink.accepted.toList ++ frames (kept [q]) := by
  cases result with
  | ok _ =>
    obtain ⟨fits, bytes⟩ := write_ok wrote
    have keeps : kept [q] = [q] := List.filter_cons_of_pos (by simpa using fits)
    simpa [keeps, frames] using bytes
  | error e =>
    by_cases fits : (Codec.encode q).length ≤ maxPayload
    · rw [write, if_neg (Nat.not_lt.mpr fits)] at wrote
      cases sending : w.send (frame (Codec.encode q)) with
      | mk given sent =>
        rw [sending] at wrote
        cases given with
        | ok _ => cases wrote
        | error cause =>
          obtain ⟨fault, rfl⟩ := send_failed sending
          cases wrote
          exact absurd rfl (whole fault)
    · have drops : kept [q] = [] := List.filter_cons_of_neg (by simpa using fits)
      rw [write_tooLarge w (Nat.lt_of_not_le fits)] at wrote
      cases wrote
      rw [drops]
      exact (List.append_nil _).symm

theorem writeEach_whole {qs : List Query} {w after : Writer} {results : List (Except Error Unit)}
    (wrote : writeEach qs w = (results, after)) (whole : Whole results) :
    after.sink.accepted.toList = w.sink.accepted.toList ++ frames (kept qs) := by
  induction qs generalizing w results with
  | nil =>
    cases wrote
    exact (List.append_nil _).symm
  | cons q qs ih =>
    cases first : w.write q with
    | mk result next =>
    cases rest : writeEach qs next with
    | mk more last =>
    simp only [writeEach, first, rest, Prod.mk.injEq] at wrote
    obtain ⟨rfl, rfl⟩ := wrote
    have front := write_whole first (whole result (by simp))
    have back := ih rest fun given member => whole given (List.mem_cons_of_mem _ member)
    have split : kept (q :: qs) = kept [q] ++ kept qs := List.filter_append [q] qs
    rw [back, front, List.append_assoc, split]
    simp [frames]

end Writer

namespace Reader

theorem nexts_add (m n : Nat) (r : Reader) :
    nexts (m + n) r =
      ((nexts m r).1 ++ (nexts n (nexts m r).2).1, (nexts n (nexts m r).2).2) := by
  induction m generalizing r with
  | zero =>
    rw [Nat.zero_add]
    rfl
  | succ m ih =>
    rw [Nat.add_right_comm]
    simp [nexts, ih]

theorem nexts_frames {qs : List Query} (fits : ∀ q ∈ qs, (Codec.encode q).length ≤ maxPayload)
    {r : Reader} {bs : List UInt8} (holds : r.source.Holds (frames qs ++ bs)) :
    ∃ rest, nexts qs.length r = (qs.map (fun q => .ok (some q)), ⟨rest, r.read + qs.length⟩) ∧
      rest.Holds bs := by
  induction qs generalizing r with
  | nil => exact ⟨r.source, rfl, holds⟩
  | cons q qs ih =>
    have short := fits q (by simp)
    have bound : (Codec.encode q).length < 2 ^ 64 := Nat.lt_of_le_of_lt short (by decide)
    rw [frames_cons, List.append_assoc] at holds
    obtain ⟨behind, first, left⟩ := next_frame holds short (Codec.decode_encode bound)
    obtain ⟨rest, more, last⟩ :=
      ih (fun p member => fits p (List.mem_cons_of_mem _ member)) (r := ⟨behind, r.read + 1⟩) left
    refine ⟨rest, ?_, last⟩
    simp [nexts, first, more, Nat.add_assoc, Nat.add_comm 1]

/-- Nothing of a payload that a burst has hit gets out, whatever it spells now. -/
theorem next_burst {r : Reader} {payload altered bs : List UInt8}
    (burst : Crc32.Burst payload altered) (short : payload.length ≤ maxPayload)
    (holds : r.source.Holds (heading payload ++ (altered ++ bs))) :
    ∃ rest, r.next = (.error (.checksumMismatch r.read), ⟨rest, r.read⟩) ∧ rest.Holds bs := by
  obtain ⟨behind, started, left⟩ := next_heading short holds
  obtain ⟨rest, readPayload, left⟩ := Source.read_front left
  have checksums : (Crc32.checksum altered).toNat ≠ (Crc32.checksum payload).toNat := by
    intro same
    exact Crc32.checksum_burst burst (UInt32.toNat_inj.mp same)
  refine ⟨rest, ?_, left⟩
  rw [burst.length] at readPayload
  simp [started, body, readPayload, burst.length, accept, checksums]

end Reader

theorem encoded_middle (front back : List Query) (q : Query) :
    encoded (front ++ q :: back) =
      encoded front ++ heading (Codec.encode q) ++ Codec.encode q ++ frames back := by
  simp [encoded, frames, frame_heading]

/-- A burst of at most four bytes in a payload costs the reader this one query: it gets those in
front, an error with the number of the frame, those behind, and then the end. -/
theorem burst_costs_one_query {sink : Sink} {opened w : Writer} {qs : List Query}
    {results : List (Except Error Unit)} (started : Writer.start sink = (.ok (), opened))
    (wrote : Writer.writeEach qs opened = (results, w)) (whole : Writer.Whole results)
    {front back : List Query} {q : Query} (split : kept qs = front ++ q :: back)
    {altered : List UInt8} (burst : Crc32.Burst (Codec.encode q) altered) :
    w.sink.accepted.toList = sink.accepted.toList ++
        (encoded front ++ heading (Codec.encode q) ++ Codec.encode q ++ frames back) ∧
      ∀ source : Source,
        source.Holds (encoded front ++ heading (Codec.encode q) ++ altered ++ frames back) →
        ∃ r : Reader, Reader.start source = .ok r ∧
          ∀ further : Nat, ∃ last : Reader,
            r.nexts (front.length + 1 + back.length + further) =
              (front.map (fun p => .ok (some p)) ++ [.error (.checksumMismatch front.length)] ++
                back.map (fun p => .ok (some p)) ++ List.replicate further (.ok none), last) := by
  have fits : ∀ p ∈ front ++ q :: back, (Codec.encode p).length ≤ maxPayload := by
    intro p member
    exact kept_fits (split ▸ member)
  constructor
  · rw [Writer.writeEach_whole wrote whole, Writer.send_ok started, split, ← encoded_middle,
      List.append_assoc, encoded_frames]
  · intro source holds
    rw [encoded_frames] at holds
    simp only [List.append_assoc] at holds
    obtain ⟨begun, first, left⟩ := Reader.start_identified holds
    refine ⟨_, first, ?_⟩
    intro further
    obtain ⟨middle, inFront, left⟩ := Reader.nexts_frames (r := ⟨begun, 0⟩)
      (fun p member => fits p (List.mem_append_left _ member)) left
    obtain ⟨resumed, hit, left⟩ := Reader.next_burst (r := ⟨middle, 0 + front.length⟩) burst
      (fits q (by simp)) left
    have behindFits : ∀ p ∈ back, (Codec.encode p).length ≤ maxPayload := by
      intro p member
      exact fits p (by simp [member])
    obtain ⟨last, behind⟩ := Reader.nexts_framed (framed_encoded behindFits)
      (r := ⟨resumed, 0 + front.length⟩) left further
    refine ⟨⟨last, front.length + back.length⟩, ?_⟩
    have one : Reader.nexts 1 ⟨middle, 0 + front.length⟩ =
        ([.error (.checksumMismatch front.length)], ⟨resumed, 0 + front.length⟩) := by
      rw [Reader.nexts, hit, Nat.zero_add]
      rfl
    rw [Nat.add_assoc, Reader.nexts_add, Reader.nexts_add, inFront, one, behind]
    simp only [Nat.zero_add, List.append_assoc]

def garbled : Query :=
  { id := 300, description := "größe", payload := .sql "cpu" "SELEKT 7" }

theorem pair_garbled :
    ∃ (q p : Query) (opened w : Writer) (results : List (Except Error Unit)),
      Writer.start {} = (.ok (), opened) ∧ Writer.writeEach pair opened = (results, w) ∧
      Writer.Whole results ∧ kept pair = [q, p] ∧
      Crc32.Burst (Codec.encode p) (Codec.encode garbled) ∧
      ∀ source : Source,
        source.Holds (encoded [q] ++ heading (Codec.encode p) ++ Codec.encode garbled ++
          frames []) →
        ∃ r last : Reader, Reader.start source = .ok r ∧
          r.nexts 3 = ([.ok (some q), .error (.checksumMismatch 1), .ok none], last) := by
  have small : ∀ q ∈ pair, (Codec.encode q).length ≤ maxPayload := by decide
  have wrote := Writer.writeEach_unlimited Writer.begun_unlimited small
  have whole : Writer.Whole (pair.map fun _ => .ok ()) := by
    intro result member fault
    obtain ⟨-, -, rfl⟩ := List.mem_map.mp member
    exact nofun
  have split : kept pair =
      [{ label := "last row", affinity := some "host_1", payload := .siri "select last()" }] ++
        { id := 300, description := "größe", payload := .sql "cpu" "SELECT 1" } :: [] := rfl
  have burst : Crc32.Burst
      ((Codec.encode garbled).take 23 ++ [0x43, 0x54, 0x20, 0x31] ++ [])
      ((Codec.encode garbled).take 23 ++ [0x4b, 0x54, 0x20, 0x37] ++ []) :=
    .inside _ [] rfl (by decide) (by decide)
  obtain ⟨-, hit⟩ := burst_costs_one_query Writer.start_unlimited wrote whole split burst
  refine ⟨_, _, _, _, _, Writer.start_unlimited, wrote, whole, split, burst, ?_⟩
  intro source holds
  obtain ⟨r, first, given⟩ := hit source holds
  obtain ⟨last, given⟩ := given 1
  exact ⟨r, last, first, given⟩

end QueryBench.Stream
