import QueryBench.Bytes.Fault
import QueryBench.Text.Utf8

/- Where bytes go. A sink keeps what it has accepted; one with limited room takes the bytes that
   still fit and fails. Nothing accepted is ever taken back. -/
namespace QueryBench

structure Sink where
  accepted : Array UInt8 := #[]
  room : Option Nat := none
  flushFails : Bool := false
  deriving DecidableEq, Repr

namespace Sink

def write (s : Sink) (bs : List UInt8) : Except Fault Unit × Sink :=
  match s.room with
  | none => (.ok (), { s with accepted := s.accepted ++ bs })
  | some room =>
      if bs.length ≤ room then
        (.ok (), { s with accepted := s.accepted ++ bs, room := some (room - bs.length) })
      else
        (.error .diskFull, { s with accepted := s.accepted ++ bs.take room, room := some 0 })

def writeText (s : Sink) (text : String) : Except Fault Unit × Sink := s.write (Text.bytes text)

def flush (s : Sink) : Except Fault Unit :=
  if s.flushFails then .error .flushFailed else .ok ()

/-- Writes a text and flushes behind it. -/
def put (s : Sink) (text : String) : Except Fault Unit × Sink :=
  match s.writeText text with
  | (.ok (), s) => (s.flush, s)
  | failed => failed

end Sink

end QueryBench
