import Mathlib.Algebra.Group.Nat.Defs
import QueryBench.Query.Codec

/- What the query codec writes it reads back, whatever bytes stand behind it. -/
namespace QueryBench

namespace Bytes

theorem length_little (count n : Nat) : (little count n).length = count := by
  induction count generalizing n with
  | zero => rfl
  | succ count ih => simp [little, ih]

theorem ofLittle_little (count n : Nat) : ofLittle (little count n) = n % 256 ^ count := by
  induction count generalizing n with
  | zero => simp [little, ofLittle, Nat.mod_one]
  | succ count ih =>
    have low : (UInt8.ofNat (n % 256)).toNat = n % 256 := by
      rw [UInt8.toNat_ofNat']
      omega
    rw [little, ofLittle, ih, low, Nat.pow_succ', Nat.mod_mul]

theorem length_big (count n : Nat) : (big count n).length = count := by
  rw [big, List.length_reverse, length_little]

theorem ofBig_big {count n : Nat} (fits : n < 256 ^ count) : ofBig (big count n) = n := by
  rw [ofBig, big, List.reverse_reverse, ofLittle_little, Nat.mod_eq_of_lt fits]

theorem split_append {count : Nat} {bs : List UInt8} (exact : bs.length = count)
    (rest : List UInt8) : split? count (bs ++ rest) = some (bs, rest) := by
  subst count
  simp [split?]

end Bytes

namespace Text

theorem length_bytes (s : String) : (bytes s).length = size s := by
  simp [bytes, size, ByteArray.size_data]

theorem ofBytes_bytes (s : String) : ofBytes? (bytes s) = some s := by
  have whole : (⟨(bytes s).toArray⟩ : ByteArray) = s.toByteArray := by simp [bytes]
  rw [ofBytes?, whole, String.fromUTF8?, dif_pos s.isValidUTF8]
  rfl

end Text

namespace Packed

theorem plain_little {size n : Nat} (fits : n < 256 ^ size) (rest : List UInt8) :
    plain size (Bytes.little size n ++ rest) = some (n, rest) := by
  have word : Bytes.ofLittle (Bytes.little size n) = n := by
    rw [Bytes.ofLittle_little, Nat.mod_eq_of_lt fits]
  simp [plain, Bytes.split_append (Bytes.length_little size n), word]

theorem plain_byte {n : Nat} (fits : n < 256) (rest : List UInt8) :
    plain 1 (UInt8.ofNat n :: rest) = some (n, rest) := by
  have word : plain 1 (Bytes.little 1 n ++ rest) = some (n, rest) := plain_little fits rest
  rwa [Bytes.little, Nat.mod_eq_of_lt fits] at word

theorem decode_encode {n : Nat} (fits : n < 2 ^ 64) (rest : List UInt8) :
    decode (encode n ++ rest) = some (n, rest) := by
  unfold encode
  split
  · rename_i small
    exact plain_little (by simpa using small) rest
  · split
    · rename_i small
      exact plain_little (by simpa using small) rest
    · split
      · rename_i small
        exact plain_little (by simpa using small) rest
      · exact plain_little (by simpa using fits) rest

theorem length_encode_le (n : Nat) : (encode n).length ≤ 9 := by
  unfold encode
  split
  · simp [Bytes.length_little]
  · split
    · simp [Bytes.length_little]
    · split <;> simp [Bytes.length_little]

end Packed

namespace Codec

theorem encodeText_eq (s : String) :
    encodeText s =
      (if (Text.bytes s).length < longText then [UInt8.ofNat (Text.bytes s).length]
        else UInt8.ofNat longText :: Packed.encode (Text.bytes s).length) ++ Text.bytes s := by
  rw [encodeText]
  split <;> simp

theorem decodeText_encodeText {s : String} (fits : Text.size s < 2 ^ 64) (rest : List UInt8) :
    decodeText (encodeText s ++ rest) = some (s, rest) := by
  have text := Bytes.split_append (rfl : (Text.bytes s).length = (Text.bytes s).length) rest
  rw [encodeText_eq]
  split
  · rename_i short
    have first := Packed.plain_byte (n := (Text.bytes s).length)
      (Nat.lt_trans short (by decide)) (Text.bytes s ++ rest)
    simp [decodeText, first, short, text, Text.ofBytes_bytes]
  · have first := Packed.plain_byte (n := longText) (by decide)
      (Packed.encode (Text.bytes s).length ++ (Text.bytes s ++ rest))
    have length := Packed.decode_encode (n := (Text.bytes s).length)
      (by simpa [Text.length_bytes] using fits) (Text.bytes s ++ rest)
    simp [decodeText, first, length, text, Text.ofBytes_bytes]

theorem decodeOption_encodeOption {o : Option String}
    (fits : ∀ s, o = some s → Text.size s < 2 ^ 64) (rest : List UInt8) :
    decodeOption (encodeOption o ++ rest) = some (o, rest) := by
  cases o with
  | none => rfl
  | some s => simp [encodeOption, decodeOption, decodeText_encodeText (fits s rfl)]

def payloadTexts : Payload → List String
  | .empty => []
  | .sql hypertable statement => [hypertable, statement]
  | .siri statement => [statement]

theorem decodePayload_encodePayload {p : Payload}
    (fits : ∀ s ∈ payloadTexts p, Text.size s < 2 ^ 64) (rest : List UInt8) :
    decodePayload (encodePayload p ++ rest) = some (p, rest) := by
  cases p with
  | empty => rfl
  | sql hypertable statement =>
    have first := decodeText_encodeText (fits hypertable (by simp [payloadTexts]))
      (encodeText statement ++ rest)
    have second := decodeText_encodeText (fits statement (by simp [payloadTexts])) rest
    simp [encodePayload, decodePayload, first, second]
  | siri statement =>
    simp [encodePayload, decodePayload,
      decodeText_encodeText (fits statement (by simp [payloadTexts]))]

theorem size_lt_length_encodeText (s : String) : Text.size s < (encodeText s).length := by
  rw [← Text.length_bytes, encodeText_eq]
  split
  · simp
  · simp only [List.length_append, List.length_cons]
    omega

theorem length_encode (q : Query) :
    (encode q).length = (Packed.encode q.id.toNat).length + (encodeText q.label).length +
      (encodeText q.description).length + (encodeOption q.affinity).length +
      (encodePayload q.payload).length := by
  simp only [encode, List.length_append]

theorem decode_encode {q : Query} (fits : (encode q).length < 2 ^ 64) :
    decode (encode q) = some q := by
  rw [length_encode] at fits
  have label := size_lt_length_encodeText q.label
  have description := size_lt_length_encodeText q.description
  have affinity : ∀ s, q.affinity = some s → Text.size s < 2 ^ 64 := by
    intro s present
    have := size_lt_length_encodeText s
    rw [present, encodeOption, List.length_cons] at fits
    omega
  have payload : ∀ s ∈ payloadTexts q.payload, Text.size s < 2 ^ 64 := by
    intro s member
    have := size_lt_length_encodeText s
    cases stored : q.payload with
    | empty => simp [stored, payloadTexts] at member
    | sql hypertable statement =>
      simp only [stored, payloadTexts, List.mem_cons, List.not_mem_nil, or_false] at member
      rw [stored, encodePayload, List.cons_append, List.length_cons, List.length_append] at fits
      rcases member with rfl | rfl <;> omega
    | siri statement =>
      simp only [stored, payloadTexts, List.mem_cons, List.not_mem_nil, or_false] at member
      rw [stored, encodePayload, List.length_cons] at fits
      subst s
      omega
  have tail := decodePayload_encodePayload payload []
  rw [List.append_nil] at tail
  simp [decode, encode, List.append_assoc, Packed.decode_encode q.id.toNat_lt,
    decodeText_encodeText (s := q.label) (by omega),
    decodeText_encodeText (s := q.description) (by omega),
    decodeOption_encodeOption affinity, tail]

end Codec

end QueryBench
