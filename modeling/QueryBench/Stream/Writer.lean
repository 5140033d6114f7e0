import QueryBench.Bytes.Sink
import QueryBench.Stream.Frame

/- Writing queries to a stream. -/
namespace QueryBench.Stream

/-- A sink and the number of queries that it has taken whole. -/
structure Writer where
  sink : Sink
  written : Nat
  deriving DecidableEq, Repr

namespace Writer

def send (w : Writer) (bs : List UInt8) : Except Error Unit × Writer :=
  let (result, sink) := w.sink.write bs
  (result.mapError .io, { w with sink })

/-- Begins a stream: the identifier goes out at once. -/
def start (sink : Sink) : Except Error Unit × Writer := send ⟨sink, 0⟩ identifier

/-- A query whose bytes are too many fails alone and leaves the stream as it was. -/
def write (w : Writer) (q : Query) : Except Error Unit × Writer :=
  let payload := Codec.encode q
  if maxPayload < payload.length then (.error (.frameTooLarge w.written payload.length), w)
  else
    match w.send (frame payload) with
    | (.ok (), w) => (.ok (), { w with written := w.written + 1 })
    | failed => failed

def finish (w : Writer) : Except Error Unit := w.sink.flush.mapError .io

end Writer

end QueryBench.Stream
