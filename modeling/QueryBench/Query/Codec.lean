import QueryBench.Query.Basic
import QueryBench.Query.Packed
import QueryBench.Text.Utf8

/- Queries as bytes: the fields one after another. Every reader gives what it read and the bytes
   behind it; a query takes all of its bytes. -/
namespace QueryBench.Codec

/-- Lengths from here on are written as packed numbers behind this byte. -/
def longText : Nat := 255

def encodeText (s : String) : List UInt8 :=
  let bs := Text.bytes s
  if bs.length < longText then UInt8.ofNat bs.length :: bs
  else UInt8.ofNat longText :: Packed.encode bs.length ++ bs

def decodeText (bs : List UInt8) : Option (String × List UInt8) := do
  let (first, bs) ← Packed.plain 1 bs
  let (length, bs) ← if first < longText then some (first, bs) else Packed.decode bs
  let (text, rest) ← Bytes.split? length bs
  let s ← Text.ofBytes? text
  some (s, rest)

def encodeOption : Option String → List UInt8
  | none => [0]
  | some s => 1 :: encodeText s

def decodeOption : List UInt8 → Option (Option String × List UInt8)
  | 0 :: rest => some (none, rest)
  | 1 :: rest => (decodeText rest).map fun (s, rest) => (some s, rest)
  | _ => none

def encodePayload : Payload → List UInt8
  | .empty => [0]
  | .sql hypertable statement => 1 :: encodeText hypertable ++ encodeText statement
  | .siri statement => 2 :: encodeText statement

def decodePayload : List UInt8 → Option (Payload × List UInt8)
  | 0 :: rest => some (.empty, rest)
  | 1 :: rest => do
      let (hypertable, rest) ← decodeText rest
      let (statement, rest) ← decodeText rest
      some (.sql hypertable statement, rest)
  | 2 :: rest => (decodeText rest).map fun (statement, rest) => (.siri statement, rest)
  | _ => none

def encode (q : Query) : List UInt8 :=
  Packed.encode q.id.toNat ++ encodeText q.label ++ encodeText q.description ++
    encodeOption q.affinity ++ encodePayload q.payload

/-- The query that the bytes spell, with none left over. -/
def decode (bs : List UInt8) : Option Query := do
  let (id, bs) ← Packed.decode bs
  let (label, bs) ← decodeText bs
  let (description, bs) ← decodeText bs
  let (affinity, bs) ← decodeOption bs
  let (payload, bs) ← decodePayload bs
  if bs = [] then some ⟨UInt64.ofNat id, label, description, affinity, payload⟩ else none

end QueryBench.Codec
