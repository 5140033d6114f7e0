import QueryBench.Random.Draw
import QueryBench.Time.Duration

/- Closed ranges of time, with bounds in signed 64-bit nanoseconds since 1970-01-01, and the random
   windows drawn from them. A window keeps its length and lies inside of its interval. -/
namespace QueryBench

structure Interval where
  start : Int
  finish : Int
  ordered : start ≤ finish
  lower : -0x8000000000000000 ≤ start
  upper : finish < 0x8000000000000000
  deriving DecidableEq, Repr

namespace Interval

inductive Error where
  | endBeforeStart (start finish : Int)
  | outOfRange (moment : Moment)
  | windowTooLarge (window span : Duration)
  deriving DecidableEq, Repr

def timeText (nanos : Int) : String := (Moment.ofNanos nanos).toText

def Error.message : Error → String
  | .endBeforeStart start finish =>
      "end time " ++ timeText finish ++ " is before start time " ++ timeText start
  | .outOfRange moment =>
      "timestamp " ++ moment.toOffsetText ++
        " cannot be represented in nanoseconds since the epoch"
  | .windowTooLarge window span =>
      "random window of " ++ window.toText ++ " does not fit into an interval spanning " ++
        span.toText

/-- The interval between two moments. Each must fit into 64 bits of nanoseconds; the first is looked
at first, and their order last. -/
def ofMoments (start finish : Moment) : Except Error Interval :=
  let a := start.toNanos
  let b := finish.toNanos
  if h : -0x8000000000000000 ≤ a ∧ a < 0x8000000000000000 then
    if h' : -0x8000000000000000 ≤ b ∧ b < 0x8000000000000000 then
      if o : a ≤ b then .ok ⟨a, b, o, h.1, h'.2⟩ else .error (.endBeforeStart a b)
    else .error (.outOfRange finish)
  else .error (.outOfRange start)

def ofNanos (start finish : Int) : Except Error Interval :=
  ofMoments (Moment.ofNanos start) (Moment.ofNanos finish)

def span (i : Interval) : Nat := (i.finish - i.start).toNat

def duration (i : Interval) : Duration := ⟨i.span⟩

def startText (i : Interval) : String := timeText i.start

def finishText (i : Interval) : String := timeText i.finish

def millis (nanos : Int) : Int := nanos / 1000000

/-- The window that begins `offset` nanoseconds after the start, if it ends in time. -/
def windowAt? (i : Interval) (window : Duration) (offset : Nat) : Option Interval :=
  if h : i.start + offset + window.nanos ≤ i.finish then
    some ⟨i.start + offset, i.start + offset + window.nanos, by omega,
      by have := i.lower; omega, by have := i.upper; omega⟩
  else none

/-- The window that a word of the stream stands for. Every offset from zero up to the difference of
the two lengths has the same count of words. -/
def windowOfWord? (i : Interval) (window : Duration) (word : Nat) : Option Interval :=
  let offsets := i.span - window.nanos + 1
  (Draw.ofWord? 64 offsets (Draw.doubledZone 64 offsets) word).bind (i.windowAt? window)

/-- A window of the given length at a random place. One as long as the interval is the interval, and
takes no word. -/
def randomWindow (i : Interval) (window : Duration) (k : Keystream) :
    Except Error Interval × Keystream :=
  if i.span < window.nanos then (.error (.windowTooLarge window i.duration), k)
  else if i.span = window.nanos then (.ok i, k)
  else
    let found := k.search .long (i.windowOfWord? window)
      (fun _ => (i.windowAt? window 0).getD i) Keystream.period
    (.ok found.1, found.2)

end Interval

end QueryBench
