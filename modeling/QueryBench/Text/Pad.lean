/- Fields of a fixed width. A width counts characters, and a text that is too long is kept whole. -/
namespace QueryBench.Text

/-- Fills up on the left, as numbers are lined up. -/
def padLeft (width : Nat) (fill : Char) (s : String) : String :=
  String.ofList (List.replicate (width - s.length) fill) ++ s

/-- Fills up on the right, as names are lined up. -/
def padRight (width : Nat) (fill : Char) (s : String) : String :=
  s ++ String.ofList (List.replicate (width - s.length) fill)

/-- A number with at least `width` digits. -/
def digits (width n : Nat) : String := padLeft width '0' (toString n)

end QueryBench.Text
