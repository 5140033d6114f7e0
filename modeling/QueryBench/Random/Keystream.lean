/- The seeded word stream behind every random draw: ChaCha with twelve rounds, a 256-bit key, a
   64-bit block counter from zero and a zero nonce. A stream is its key and the number of words
   taken so far; nothing is buffered, so equal key and position mean equal futures. -/
namespace QueryBench

structure Row where
  a : UInt32
  b : UInt32
  c : UInt32
  d : UInt32
  deriving DecidableEq, Repr

def Row.zip (f : UInt32 → UInt32 → UInt32) (r s : Row) : Row :=
  ⟨f r.a s.a, f r.b s.b, f r.c s.c, f r.d s.d⟩

def Row.turn (bits : UInt32) (r : Row) : Row :=
  let left (w : UInt32) : UInt32 := w <<< bits ||| w >>> (32 - bits)
  ⟨left r.a, left r.b, left r.c, left r.d⟩

/-- Moves every word one column to the left. -/
def Row.shift (r : Row) : Row := ⟨r.b, r.c, r.d, r.a⟩

def Row.word (r : Row) : Nat → UInt32
  | 0 => r.a
  | 1 => r.b
  | 2 => r.c
  | _ => r.d

structure Matrix where
  p : Row
  q : Row
  r : Row
  s : Row
  deriving DecidableEq, Repr

namespace Matrix

/-- The quarter round, on all four columns at once. -/
def columns (m : Matrix) : Matrix :=
  let p := m.p.zip (· + ·) m.q
  let s := (m.s.zip (· ^^^ ·) p).turn 16
  let r := m.r.zip (· + ·) s
  let q := (m.q.zip (· ^^^ ·) r).turn 12
  let p := p.zip (· + ·) q
  let s := (s.zip (· ^^^ ·) p).turn 8
  let r := r.zip (· + ·) s
  let q := (q.zip (· ^^^ ·) r).turn 7
  ⟨p, q, r, s⟩

/-- Lines the diagonals up as columns. -/
def slant (m : Matrix) : Matrix := ⟨m.p, m.q.shift, m.r.shift.shift, m.s.shift.shift.shift⟩

def unslant (m : Matrix) : Matrix := ⟨m.p, m.q.shift.shift.shift, m.r.shift.shift, m.s.shift⟩

def doubleRound (m : Matrix) : Matrix := m.columns.slant.columns.unslant

def doubleRounds : Nat → Matrix → Matrix
  | 0, m => m
  | n + 1, m => doubleRounds n m.doubleRound

def add (m n : Matrix) : Matrix :=
  ⟨m.p.zip (· + ·) n.p, m.q.zip (· + ·) n.q, m.r.zip (· + ·) n.r, m.s.zip (· + ·) n.s⟩

def word (m : Matrix) (i : Nat) : UInt32 :=
  match i / 4 with
  | 0 => m.p.word (i % 4)
  | 1 => m.q.word (i % 4)
  | 2 => m.r.word (i % 4)
  | _ => m.s.word (i % 4)

end Matrix

/-- A word stream: its key and how many words have been taken. -/
structure Keystream where
  low : Row
  high : Row
  position : Nat
  deriving DecidableEq, Repr

namespace Keystream

/-- The sixteen words of block `n`; the counter wraps after 2^64 blocks. -/
def block (k : Keystream) (n : Nat) : Matrix :=
  let counter := UInt64.ofNat n
  let start : Matrix :=
    ⟨⟨0x61707865, 0x3320646e, 0x79622d32, 0x6b206574⟩, k.low, k.high,
      ⟨counter.toUInt32, (counter >>> 32).toUInt32, 0, 0⟩⟩
  (start.doubleRounds 6).add start

def wordAt (k : Keystream) (n : Nat) : UInt32 := (k.block (n / 16)).word (n % 16)

def next32 (k : Keystream) : UInt32 × Keystream :=
  (k.wordAt k.position, { k with position := k.position + 1 })

/-- Two words make a long one, the first of them its low half. -/
def next64 (k : Keystream) : UInt64 × Keystream :=
  ((k.wordAt k.position).toUInt64 ||| (k.wordAt (k.position + 1)).toUInt64 <<< 32,
    { k with position := k.position + 2 })

/-- One step of the congruential generator that spreads a seed over a key. -/
def seedStep (state : UInt64) : UInt64 := state * 6364136223846793005 + 11634580027462260723

/-- The word that a generator state shows: its top bits, turned by an amount that it names. -/
def seedWord (state : UInt64) : UInt32 :=
  let mixed := (((state >>> 18) ^^^ state) >>> 27).toUInt32
  let turn := (state >>> 59).toUInt32
  mixed >>> turn ||| mixed <<< (32 - turn)

def seedRow (state : UInt64) : Row × UInt64 :=
  let a := seedStep state
  let b := seedStep a
  let c := seedStep b
  let d := seedStep c
  (⟨seedWord a, seedWord b, seedWord c, seedWord d⟩, d)

def ofSeed (seed : UInt64) : Keystream :=
  let (low, middle) := seedRow seed
  ⟨low, (seedRow middle).1, 0⟩

end Keystream

end QueryBench
