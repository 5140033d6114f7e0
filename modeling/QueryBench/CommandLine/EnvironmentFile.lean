import QueryBench.CommandLine.Arguments
import QueryBench.Text.Blank
import QueryBench.Text.Utf8

/- Files of environment variables, one `NAME=value` a line. A value may be quoted; single quotes
   keep everything between them, double quotes know escapes, and outside of single quotes `$NAME`
   stands for a variable. Variables that are set already keep their values. -/
namespace QueryBench.CommandLine.EnvironmentFile

inductive Error where
  | notText
  /-- A line that is no assignment, and where that shows. -/
  | line (text : String) (position : Nat)
  deriving DecidableEq, Repr

def Error.message : Error → String
  | .notText => "stream did not contain valid UTF-8"
  | .line text position =>
      "Error parsing line: '" ++ text ++ "', error at line index: " ++ toString position

/-! ## Lines. A quoted value may go over several. -/

def size (cs : List Char) : Nat := Text.size (String.ofList cs)

/-- Where the end of a line leaves its reader. -/
inductive Mood where
  | plain
  | escape
  | single
  | singleEscape
  | double
  | doubleEscape
  | blank
  | comment
  deriving DecidableEq, Repr

def Mood.next (m : Mood) (c : Char) : Mood :=
  let opening :=
    if c = '\\' then .escape else if c = '"' then .double else if c = '\'' then .single else .plain
  match m with
  | .plain => if Text.isBlank c && c ≠ '\n' && c ≠ '\r' then .blank else opening
  | .blank => if c = '#' then .comment else opening
  | .escape => .plain
  | .single => if c = '\\' then .singleEscape else if c = '\'' then .plain else .single
  | .singleEscape => .single
  | .double => if c = '\\' then .doubleEscape else if c = '"' then .plain else .double
  | .doubleEscape => .double
  | .comment => .comment

/-- The text of a line up to a comment, with its end left on, and the mood behind it. -/
def scanLine : Mood → List Char → List Char × Mood
  | m, [] => ([], m)
  | m, c :: rest =>
      match m.next c with
      | .comment => ([], .comment)
      | m => let (cs, m) := scanLine m rest; (c :: cs, m)

def physical : List UInt8 → List (List UInt8)
  | [] => []
  | b :: rest =>
      match physical rest with
      | [] => [[b]]
      | l :: ls => if b = 10 then [b] :: l :: ls else (b :: l) :: ls

def withoutEnd (cs : List Char) : List Char :=
  match cs.reverse with
  | '\n' :: '\r' :: rest => rest.reverse
  | '\n' :: rest => rest.reverse
  | _ => cs

/-- Joins the lines of values that go over several. `joined` is what there is of such a value so
far. -/
def logical (joined : List Char) (m : Mood) : List (List UInt8) → List (Except Error (List Char))
  | [] =>
      if m = .plain then []
      else [.error (.line (String.ofList joined) (size joined))]
  | bs :: rest =>
      match (Text.ofBytes? bs).map String.toList with
      | none => [.error .notText]
      | some l =>
          if (Text.trimLeft (joined ++ l)).head? = some '#' then .ok [] :: logical [] .plain rest
          else
            match scanLine m l with
            | (cs, .comment) => .ok (joined ++ cs) :: logical [] .plain rest
            | (_, .plain) => .ok (withoutEnd (joined ++ l)) :: logical [] .plain rest
            | (_, m) => logical (joined ++ l) m rest

/-! ## Values -/

abbrev Lookup := String → String

/-- Where a reader of values stands. -/
structure Place where
  single : Bool := false
  double : Bool := false
  escaped : Bool := false
  /-- Behind the blanks that end a value. -/
  ended : Bool := false
  /-- The name behind a `$`, and whether it stands in braces. -/
  name : Option (Bool × List Char) := none
  deriving DecidableEq, Repr

def letter (c : Char) : Bool := c.isAlphanum || 127 < c.toNat

/-- One character further: where the reader stands then, and what the character adds to the value.
None is a mistake. -/
def Place.next (look : Lookup) (p : Place) (c : Char) : Option (Place × List Char) :=
  let value (cs : List Char) : List Char := (look (String.ofList cs)).toList
  if p.ended then if c = ' ' || c = '\t' then some (p, []) else none
  else if p.escaped then
    let p := { p with escaped := false }
    if c = 'n' then some (p, ['\n'])
    else if ['\\', '\'', '"', '$', ' '].contains c then some (p, [c])
    else none
  else if p.single then
    if c = '\'' then some ({ p with single := false }, []) else some (p, [c])
  else
    match p.name with
    | some (braced, cs) =>
        if letter c then some ({ p with name := some (braced, cs ++ [c]) }, [])
        else if braced then
          if c = '\x7d' then some ({ p with name := none }, value cs)
          else some ({ p with name := some (true, cs ++ [c]) }, [])
        else if c = '\x7b' && cs = [] then some ({ p with name := some (true, []) }, [])
        else if c = '$' then some ({ p with name := some (false, []) }, value cs)
        else some ({ p with name := none }, value cs ++ [c])
    | none =>
        if c = '$' then some ({ p with name := some (false, []) }, [])
        else if p.double then
          if c = '"' then some ({ p with double := false }, [])
          else if c = '\\' then some ({ p with escaped := true }, [])
          else some (p, [c])
        else if c = '\'' then some ({ p with single := true }, [])
        else if c = '"' then some ({ p with double := true }, [])
        else if c = '\\' then some ({ p with escaped := true }, [])
        else if c = ' ' || c = '\t' then some ({ p with ended := true }, [])
        else some (p, [c])

/-- The rest of a value from a position on, or the position of a mistake. A quote that stays open is
one at the last position. -/
def value (look : Lookup) (last : Nat) : Place → Nat → List Char → Except Nat (List Char)
  | p, _, [] =>
      if p.single || p.double || (p.name.map (·.1)) = some true then .error last
      else
        match p.name with
        | some (_, cs) => .ok (look (String.ofList cs)).toList
        | none => .ok []
  | p, i, c :: rest =>
      if p.ended && c = '#' then .ok []
      else
        match p.next look c with
        | none => .error i
        | some (p, cs) => (value look last p (i + 1) rest).map (cs ++ ·)

/-! ## Assignments -/

def startsName (c : Char) : Bool := c.isAlpha || c = '_'

def inName (c : Char) : Bool := c.isAlphanum || c = '_' || c = '.'

def name? (cs : List Char) : Option (String × List Char) :=
  match cs with
  | c :: _ =>
      if startsName c then
        some (String.ofList (cs.takeWhile inName), Text.trimLeft (cs.dropWhile inName))
      else none
  | [] => none

/-- A name and what is behind the `=` that follows it. The word `export` may come first. A mistake
is given by what is left of the line at it. -/
def assigned (cs : List Char) : Except (List Char) (String × List Char) :=
  match name? cs with
  | none => .error cs
  | some (name, '=' :: rest) => .ok (name, Text.trimLeft rest)
  | some (name, rest) =>
      if name = "export" then
        match name? rest with
        | none => .error rest
        | some (name, '=' :: rest) => .ok (name, Text.trimLeft rest)
        | some (_, rest) => .error rest
      else .error rest

/-- The assignment on a line, if there is one. Names stand for variables of the environment, or for
those of the lines before. -/
def assignment (environment earlier : Environment) (line : List Char) :
    Except Error (Option (String × String)) :=
  let text := Text.trimRight line
  let start := Text.trimLeft text
  let look (name : String) : String :=
    (environment.find? name).getD ((earlier.find? name).getD "")
  if start = [] || start.head? = some '#' then .ok none
  else
    match assigned start with
    | .error rest => .error (.line (String.ofList line) (size text - size rest))
    | .ok (name, rest) =>
        if rest = [] || rest.head? = some '#' then .ok (some (name, ""))
        else
          match value look (size rest - 1) {} 0 rest with
          | .error i => .error (.line (String.ofList rest) i)
          | .ok v => .ok (some (name, String.ofList v))

def assign (environment earlier : Environment) :
    List (Except Error (List Char)) → Except Error Environment
  | [] => .ok environment
  | .error e :: _ => .error e
  | .ok l :: ls =>
      match assignment environment earlier l with
      | .error e => .error e
      | .ok none => assign environment earlier ls
      | .ok (some (name, v)) =>
          assign (environment.alter name (·.getD v)) (earlier.alter name fun _ => v) ls

def byteOrderMark : List UInt8 := [0xef, 0xbb, 0xbf]

def load (bs : List UInt8) (environment : Environment) : Except Error Environment :=
  let bs := if bs.take 3 = byteOrderMark then bs.drop 3 else bs
  assign environment [] (logical [] .plain (physical bs))

def mentioned : List Char → List String
  | [] => []
  | '$' :: '\x7b' :: rest => String.ofList (rest.takeWhile (· ≠ '\x7d')) :: mentioned rest
  | '$' :: rest => String.ofList (rest.takeWhile letter) :: mentioned rest
  | _ :: rest => mentioned rest

end QueryBench.CommandLine.EnvironmentFile
