import QueryBench.Bytes.Word

/- Numbers of up to 64 bits in as few bytes as they need: a tag for the size and the bytes behind
   it, the lowest first. A reader takes every size, and a second family of tags under which an
   offset of eight bytes stands before the number. -/
namespace QueryBench.Packed

def encode (n : Nat) : List UInt8 :=
  if n < UInt8.size then 6 :: Bytes.little 1 n
  else if n < UInt16.size then 4 :: Bytes.little 2 n
  else if n < UInt32.size then 2 :: Bytes.little 4 n
  else 0 :: Bytes.little 8 n

def plain (size : Nat) (bs : List UInt8) : Option (Nat × List UInt8) :=
  (Bytes.split? size bs).map fun (n, rest) => (Bytes.ofLittle n, rest)

/-- The sum of an offset and a number, modulo 2^64. -/
def shifted (size : Nat) (bs : List UInt8) : Option (Nat × List UInt8) := do
  let (offset, bs) ← plain 8 bs
  let (n, rest) ← plain size bs
  some ((offset + n) % UInt64.size, rest)

def decode : List UInt8 → Option (Nat × List UInt8)
  | [] => none
  | tag :: rest =>
      match tag.toNat with
      | 6 => plain 1 rest
      | 5 => shifted 1 rest
      | 4 => plain 2 rest
      | 3 => shifted 2 rest
      | 2 => plain 4 rest
      | 1 => shifted 4 rest
      | 0 => plain 8 rest
      | _ => none

end QueryBench.Packed
