import QueryBench.Bytes.Fault
import QueryBench.Bytes.Word
import QueryBench.Hash.Crc32
import QueryBench.Query.Codec

/- The stream format: an identifier, and for every query a frame of its length, its checksum and its
   bytes. Both numbers have four bytes, the highest first. -/
namespace QueryBench.Stream

/-- Names the format and its version: `tsbq.001`. -/
def identifier : List UInt8 := [0x74, 0x73, 0x62, 0x71, 0x2e, 0x30, 0x30, 0x31]

/-- Longer payloads are refused. -/
def maxPayload : Nat := 16777216

def headerSize : Nat := 8

def frame (payload : List UInt8) : List UInt8 :=
  Bytes.big 4 payload.length ++ Bytes.big 4 (Crc32.checksum payload).toNat ++ payload

inductive Error where
  | invalidIdentifier
  | checksumMismatch (frame : Nat)
  | truncated (frame : Nat)
  | frameTooLarge (frame length : Nat)
  | undecodable
  | io (fault : Fault)
  deriving DecidableEq, Repr

def Error.message : Error → String
  | .invalidIdentifier => "invalid query stream identifier"
  | .checksumMismatch frame => "crc32 checksum mismatch in query frame " ++ toString frame
  | .truncated frame => "query frame " ++ toString frame ++ " is truncated"
  | .frameTooLarge frame length =>
      "query frame " ++ toString frame ++ " has length " ++ toString length ++
        " which exceeds the maximum of " ++ toString maxPayload
  | .undecodable => "failed to encode or decode query"
  | .io fault => "IO error: " ++ fault.message

end QueryBench.Stream
