import QueryBench.Bytes.Word

/- The 64-bit xxHash of a byte string. -/
namespace QueryBench.Xx64

def prime₁ : UInt64 := 0x9e3779b185ebca87
def prime₂ : UInt64 := 0xc2b2ae3d27d4eb4f
def prime₃ : UInt64 := 0x165667b19e3779f9
def prime₄ : UInt64 := 0x85ebca77c2b2ae63
def prime₅ : UInt64 := 0x27d4eb2f165667c5

def turn (bits w : UInt64) : UInt64 := w <<< bits ||| w >>> (64 - bits)

def word (bs : List UInt8) : UInt64 := UInt64.ofNat (Bytes.ofLittle bs)

def absorb (lane w : UInt64) : UInt64 := turn 31 (lane + w * prime₂) * prime₁

def merge (hash lane : UInt64) : UInt64 := (hash ^^^ absorb 0 lane) * prime₁ + prime₄

/-- The four running sums over blocks of 32 bytes. -/
structure Lanes where
  a : UInt64
  b : UInt64
  c : UInt64
  d : UInt64
  deriving DecidableEq, Repr

def Lanes.start (seed : UInt64) : Lanes :=
  ⟨seed + prime₁ + prime₂, seed + prime₂, seed, seed - prime₁⟩

def Lanes.block (l : Lanes) (bs : List UInt8) : Lanes :=
  ⟨absorb l.a (word (bs.take 8)), absorb l.b (word (bs.drop 8 |>.take 8)),
    absorb l.c (word (bs.drop 16 |>.take 8)), absorb l.d (word (bs.drop 24 |>.take 8))⟩

def Lanes.blocks : Nat → Lanes → List UInt8 → Lanes
  | 0, l, _ => l
  | n + 1, l, bs => Lanes.blocks n (l.block (bs.take 32)) (bs.drop 32)

def Lanes.join (l : Lanes) : UInt64 :=
  let turned := turn 1 l.a + turn 7 l.b + turn 12 l.c + turn 18 l.d
  merge (merge (merge (merge turned l.a) l.b) l.c) l.d

/-- Whole words of eight bytes. -/
def longs : Nat → UInt64 → List UInt8 → UInt64
  | 0, hash, _ => hash
  | n + 1, hash, bs =>
      longs n (turn 27 (hash ^^^ absorb 0 (word (bs.take 8))) * prime₁ + prime₄) (bs.drop 8)

/-- At most one word of four bytes, and single bytes behind it. -/
def rest (hash : UInt64) (bs : List UInt8) : UInt64 :=
  let single (hash : UInt64) (b : UInt8) : UInt64 :=
    turn 11 (hash ^^^ b.toUInt64 * prime₅) * prime₁
  if 4 ≤ bs.length then
    (bs.drop 4).foldl single
      (turn 23 (hash ^^^ word (bs.take 4) * prime₁) * prime₂ + prime₃)
  else bs.foldl single hash

def avalanche (hash : UInt64) : UInt64 :=
  let hash := (hash ^^^ hash >>> 33) * prime₂
  let hash := (hash ^^^ hash >>> 29) * prime₃
  hash ^^^ hash >>> 32

def hash (seed : UInt64) (bs : List UInt8) : UInt64 :=
  let blocks := bs.length / 32
  let start :=
    if blocks = 0 then seed + prime₅ else (Lanes.blocks blocks (Lanes.start seed) bs).join
  let behind := bs.drop (32 * blocks)
  let count := behind.length / 8
  let mixed := longs count (start + UInt64.ofNat bs.length) behind
  avalanche (rest mixed (behind.drop (8 * count)))

end QueryBench.Xx64
