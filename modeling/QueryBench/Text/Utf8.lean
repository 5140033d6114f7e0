/- Texts as bytes. -/
namespace QueryBench.Text

def bytes (s : String) : List UInt8 := s.toUTF8.data.toList

/-- The text that the bytes spell, unless they are no valid UTF-8. -/
def ofBytes? (bs : List UInt8) : Option String := String.fromUTF8? ⟨bs.toArray⟩

def size (s : String) : Nat := s.utf8ByteSize

end QueryBench.Text
