import QueryBench.Decimal.Shortest

/- JSON documents and their two written forms: on one line, and indented. Numbers that are not whole
   keep a fraction of at least one digit; far ones take an exponent with a sign. -/
namespace QueryBench

inductive Json where
  | null
  | bool (b : Bool)
  | nat (n : Nat)
  | float (x : Float)
  | str (s : String)
  | arr (items : List Json)
  | obj (fields : List (String × Json))

namespace Json

/-- The text of a number: positional from 1e-5 up to, but without, 1e16. -/
def floatText (x : Float) : String :=
  match Binary64.ofFloat x with
  | .nan | .infinity _ => "null"
  | .finite negative 0 _ => Decimal.signed negative "0.0"
  | .finite negative mantissa exponent =>
      let d := Decimal.shortest .even mantissa exponent
      let digits := toString d.digits
      let lead := d.exponent + digits.length - 1
      Decimal.signed negative <|
        if -5 ≤ lead ∧ lead < 16 then
          if 0 ≤ d.exponent then Decimal.positional d ++ ".0" else Decimal.positional d
        else
          let behind := String.ofList (digits.toList.drop 1)
          let fraction := if behind = "" then "" else "." ++ behind
          String.ofList (digits.toList.take 1) ++ fraction ++ "e" ++
            (if lead < 0 then "-" else "+") ++ toString lead.natAbs

def hexDigit (n : Nat) : Char :=
  if n < 10 then Char.ofNat ('0'.toNat + n) else Char.ofNat ('a'.toNat + (n - 10))

/-- A character inside quotes: quotes, backslashes and the control characters are escaped. -/
def charText (c : Char) : String :=
  if c = '"' then "\\\""
  else if c = '\\' then "\\\\"
  else if c = '\n' then "\\n"
  else if c = '\r' then "\\r"
  else if c = '\t' then "\\t"
  else if c = '\x08' then "\\b"
  else if c = '\x0c' then "\\f"
  else if c.toNat < 32 then
    "\\u00" ++ String.ofList [hexDigit (c.toNat / 16), hexDigit (c.toNat % 16)]
  else String.singleton c

def quoted (s : String) : String := "\"" ++ String.join (s.toList.map charText) ++ "\""

mutual

/-- On one line, without blanks. -/
def compact : Json → String
  | .null => "null"
  | .bool b => if b then "true" else "false"
  | .nat n => toString n
  | .float x => floatText x
  | .str s => quoted s
  | .arr items => "[" ++ String.intercalate "," (compactItems items) ++ "]"
  | .obj fields => "\x7b" ++ String.intercalate "," (compactFields fields) ++ "\x7d"

def compactItems : List Json → List String
  | [] => []
  | item :: rest => item.compact :: compactItems rest

def compactFields : List (String × Json) → List String
  | [] => []
  | (key, value) :: rest => (quoted key ++ ":" ++ value.compact) :: compactFields rest

end

/-- Lines between two brackets, indented by two blanks more than the brackets. -/
def block (indent : Nat) (first last : String) (lines : List String) : String :=
  let margin := String.ofList (List.replicate indent ' ')
  if lines = [] then first ++ last
  else
    first ++ "\n" ++ String.intercalate ",\n" (lines.map fun line => margin ++ "  " ++ line) ++
      "\n" ++ margin ++ last

mutual

/-- One item or field a line. -/
def pretty (indent : Nat) : Json → String
  | .arr items => block indent "[" "]" (prettyItems (indent + 2) items)
  | .obj fields => block indent "\x7b" "\x7d" (prettyFields (indent + 2) fields)
  | .null => "null"
  | .bool b => if b then "true" else "false"
  | .nat n => toString n
  | .float x => floatText x
  | .str s => quoted s

def prettyItems (indent : Nat) : List Json → List String
  | [] => []
  | item :: rest => item.pretty indent :: prettyItems indent rest

def prettyFields (indent : Nat) : List (String × Json) → List String
  | [] => []
  | (key, value) :: rest => (quoted key ++ ": " ++ value.pretty indent) :: prettyFields indent rest

end

end Json

end QueryBench
