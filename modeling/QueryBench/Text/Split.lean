/- Texts cut at a separator. -/
namespace QueryBench.Text

/-- The parts of a text between the separators; there is always one more part than separators. -/
def splitList (separator : Char) : List Char → List (List Char)
  | [] => [[]]
  | c :: rest =>
      match splitList separator rest with
      | [] => [[c]]
      | part :: parts => if c = separator then [] :: part :: parts else (c :: part) :: parts

def split (separator : Char) (s : String) : List String :=
  (splitList separator s.toList).map String.ofList

end QueryBench.Text
