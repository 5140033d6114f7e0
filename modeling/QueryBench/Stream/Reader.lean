import QueryBench.Bytes.Source
import QueryBench.Stream.Frame

/- Reading queries from a stream. A reader goes on after an error, with the bytes behind the ones
   that it has taken. -/
namespace QueryBench.Stream

/-- A source behind the identifier, and the number of queries read from it. -/
structure Reader where
  source : Source
  read : Nat
  deriving DecidableEq, Repr

namespace Reader

/-- Checks the identifier; a source that ends before it is over has none. -/
def start (source : Source) : Except Error Reader :=
  match source.read identifier.length with
  | (.error fault, _) => .error (.io fault)
  | (.ok bs, source) => if bs = identifier then .ok ⟨source, 0⟩ else .error .invalidIdentifier

def header (bs : List UInt8) : Nat × Nat := (Bytes.ofBig (bs.take 4), Bytes.ofBig (bs.drop 4))

/-- Why the payload of a frame is no query, or the query. -/
def accept (frame checksum : Nat) (payload : List UInt8) : Except Error Query :=
  if (Crc32.checksum payload).toNat ≠ checksum then .error (.checksumMismatch frame)
  else
    match Codec.decode payload with
    | none => .error .undecodable
    | some q => .ok q

def body (r : Reader) (length checksum : Nat) : Except Error (Option Query) × Reader :=
  match r.source.read length with
  | (.error fault, source) => (.error (.io fault), { r with source })
  | (.ok payload, source) =>
      if payload.length < length then (.error (.truncated r.read), { r with source })
      else
        match accept r.read checksum payload with
        | .error e => (.error e, { r with source })
        | .ok q => (.ok (some q), ⟨source, r.read + 1⟩)

/-- The next query, or none where the stream ends between two frames. -/
def next (r : Reader) : Except Error (Option Query) × Reader :=
  match r.source.read headerSize with
  | (.error fault, source) => (.error (.io fault), { r with source })
  | (.ok bs, source) =>
      if bs = [] then (.ok none, { r with source })
      else if bs.length < headerSize then (.error (.truncated r.read), { r with source })
      else
        let (length, checksum) := header bs
        if maxPayload < length then (.error (.frameTooLarge r.read length), { r with source })
        else body { r with source } length checksum

/-- The queries that so many calls give before the end or the first error. -/
def queriesWithin : Nat → Reader → List Query
  | 0, _ => []
  | calls + 1, r =>
      match r.next with
      | (.ok (some q), r) => q :: queriesWithin calls r
      | _ => []

/-- The queries before the end or the first error. Each of them takes some bytes. -/
def queries (r : Reader) : List Query :=
  r.queriesWithin (Source.content r.source.deliveries).length

end Reader

end QueryBench.Stream
