import QueryBench.Json
import QueryBench.Log.Filter

/- Log events and the lines that they are written as. -/
namespace QueryBench.Log

/-- The value of a field: a text in quotes, a text as it is, or anything else. -/
inductive Value where
  | quoted (s : String)
  | shown (s : String)
  | json (value : Json)

namespace Value

def toText : Value → String
  | .quoted s => Json.quoted s
  | .shown s => s
  | .json value => value.compact

def toJson : Value → Json
  | .quoted s => .str s
  | .shown s => .str s
  | .json value => value

end Value

structure Event where
  level : Level
  target : String
  message : String
  fields : List (String × Value) := []

def Filter.showsEvent (f : Filter) (e : Event) : Bool :=
  f.shows e.level e.target ("message" :: e.fields.map (·.1))

inductive Format where
  | full
  | pretty
  | json
  deriving DecidableEq, Repr

namespace Format

def all : List Format := [.full, .pretty, .json]

def name : Format → String
  | .full => "full"
  | .pretty => "pretty"
  | .json => "json"

end Format

structure Style where
  format : Format := .full
  colours : Bool := true
  targets : Bool := true
  deriving DecidableEq, Repr

namespace Style

/-- Starts a rendition of text on terminals. -/
def code (style : Style) (s : String) : String := if style.colours then "\x1b[" ++ s ++ "m" else ""

def paint (style : Style) (s text : String) : String :=
  style.code s ++ text ++ style.code "0"

def levelText (style : Style) (l : Level) : String :=
  style.paint l.colour (Text.padLeft 5 ' ' l.name)

/-- On one line. -/
def full (style : Style) (time : String) (e : Event) : String :=
  let target := if style.targets then style.paint "2" e.target ++ style.paint "2" ":" ++ " " else ""
  style.paint "2" time ++ " " ++ style.levelText e.level ++ " " ++ target ++ e.message ++
    String.join (e.fields.map fun (name, value) =>
      " " ++ style.paint "3" name ++ style.paint "2" "=" ++ value.toText)

/-- For reading: in the colour of the level, with commas between the fields. -/
def pretty (style : Style) (time : String) (e : Event) : String :=
  let plain := style.code e.level.colour
  let strong (s : String) : String := style.paint ("1;" ++ e.level.colour) s ++ plain
  let target := if style.targets then strong e.target ++ ":" else ""
  "  " ++ style.paint "2" time ++ " " ++ style.levelText e.level ++ " " ++ target ++ " " ++ plain ++
    e.message ++
    String.join (e.fields.map fun (name, value) => ", " ++ strong name ++ ": " ++ value.toText) ++
    style.code "0"

def json (style : Style) (time : String) (e : Event) : Json :=
  let fields :=
    ("message", Json.str e.message) :: e.fields.map fun (name, value) => (name, value.toJson)
  .obj ([("timestamp", .str time), ("level", .str e.level.name), ("fields", .obj fields)] ++
    if style.targets then [("target", .str e.target)] else [])

def line (style : Style) (time : String) (e : Event) : String :=
  match style.format with
  | .full => style.full time e
  | .pretty => style.pretty time e
  | .json => (style.json time e).compact

end Style

end QueryBench.Log
