/- The reflected CRC-32 checksum: the remainder of a bit string modulo a polynomial over two
   elements, taken from the lowest bit of each byte on. -/
namespace QueryBench.Crc32

/-- The polynomial, its lowest coefficient in the highest bit. -/
def polynomial : UInt32 := 0xedb88320

/-- Takes one bit off the register. -/
def shift (register : UInt32) : UInt32 :=
  if register &&& 1 = 1 then register >>> 1 ^^^ polynomial else register >>> 1

def shifts : Nat → UInt32 → UInt32
  | 0, register => register
  | n + 1, register => shifts n (shift register)

def update (register : UInt32) (b : UInt8) : UInt32 := shifts 8 (register ^^^ b.toUInt32)

def checksum (bs : List UInt8) : UInt32 := bs.foldl update 0xffffffff ^^^ 0xffffffff

end QueryBench.Crc32
