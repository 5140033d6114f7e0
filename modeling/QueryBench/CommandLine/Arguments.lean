import QueryBench.Table
import QueryBench.Text.Split

/- Reading the words of a command line against the options that a command has. Options that are not
   typed are looked up in the environment. -/
namespace QueryBench.CommandLine

abbrev Environment := Table String String

inductive Takes where
  /-- Present or absent; the environment says `true` or `false`. -/
  | flag
  /-- How often the option is present. -/
  | count
  | one (accepts : String → Bool)
  /-- Any number of values, also several between commas. -/
  | many (accepts : String → Bool)
  | help
  | version

structure Opt where
  name : String
  short : Option Char := none
  variableName : Option String := none
  takes : Takes
  required : Bool := false

structure Spec where
  options : List Opt
  commands : List String := []

inductive Usage where
  | unknownArgument
  | invalidValue
  | conflict
  | tooManyValues
  | missingRequired
  | help
  | version
  deriving DecidableEq, Repr

/-- The values of an option, and whether it was typed. -/
structure Given where
  name : String
  typed : Bool
  values : List String
  deriving DecidableEq, Repr

abbrev Answers := List Given

namespace Answers

def find? (as : Answers) (name : String) : Option Given := List.find? (fun a => a.name = name) as

def values (as : Answers) (name : String) : List String := ((as.find? name).map (·.values)).getD []

def value? (as : Answers) (name : String) : Option String := (as.values name).head?

def isTrue (as : Answers) (name : String) : Bool := as.value? name = some "true"

def set (as : Answers) (g : Given) : Answers := g :: as.filter fun a => a.name ≠ g.name

/-- The answers to a command and to the one before it. The inner ones count, except where only the
outer ones were typed. -/
def within (outer inner : Answers) : Answers :=
  let lost (i : Given) : Bool := outer.any fun o => o.name = i.name && o.typed && !i.typed
  let kept := inner.filter fun i => !lost i
  kept ++ outer.filter fun o => !kept.any fun i => i.name = o.name

end Answers

def acceptsAll (accepts : String → Bool) (values : List String) : Except Usage (List String) :=
  if values.all accepts then .ok values else .error .invalidValue

def isSwitch (s : String) : Bool := s = "true" || s = "false"

/-- Takes an option with its values in. Options that take one value, and flags, may be typed once
only. -/
def answer (as : Answers) (o : Opt) (typed : Bool) (values : List String) : Except Usage Answers :=
  let twice := typed && (as.find? o.name).isSome
  let give (values : Except Usage (List String)) : Except Usage Answers :=
    values.map fun values => as.set ⟨o.name, typed, values⟩
  match o.takes with
  | .help => .error .help
  | .version => .error .version
  | .flag =>
      if twice then .error .conflict
      else if values = [] then give (.ok ["true"])
      else give (acceptsAll isSwitch values)
  | .count => give (.ok (as.values o.name ++ ["again"]))
  | .one accepts =>
      if values = [] then .error .invalidValue
      else if twice then .error .conflict
      else give (acceptsAll accepts values)
  | .many accepts =>
      if values = [] then .error .invalidValue
      else
        let new := values.flatMap (Text.split ',')
        give ((acceptsAll accepts new).map (as.values o.name ++ ·))

/-- The answers so far, and an option that was typed last with the values behind it. -/
structure Reading where
  answers : Answers := []
  pending : Option (Opt × List String) := none

namespace Reading

def settle (r : Reading) : Except Usage Reading :=
  match r.pending with
  | none => .ok r
  | some (o, values) => (answer r.answers o true values).map fun answers => { answers }

def typeOption (r : Reading) (o : Opt) (attached : List String) : Except Usage Reading := do
  let r ← r.settle
  let answers ← answer r.answers o true attached
  return { answers }

def takesValue (o : Opt) : Bool :=
  match o.takes with
  | .one _ | .many _ => true
  | _ => false

/-- An option whose value is attached, or is the next word. -/
def typeValued (r : Reading) (o : Opt) (attached : Option String) : Except Usage Reading :=
  match attached with
  | some value => r.typeOption o [value]
  | none => do
      let r ← r.settle
      return { r with pending := some (o, []) }

def typeLong (spec : Spec) (r : Reading) (word : List Char) : Except Usage Reading :=
  let name := String.ofList (word.takeWhile (· ≠ '='))
  let attached := match word.dropWhile (· ≠ '=') with
    | [] => none
    | _ :: value => some (String.ofList value)
  match spec.options.find? fun o => o.name = name with
  | none => .error .unknownArgument
  | some o =>
      if takesValue o then r.typeValued o attached
      else if attached.isSome then .error .tooManyValues
      else r.typeOption o []

/-- Several options of one letter in one word. The first that takes a value has the rest of the
word. -/
def typeShort (spec : Spec) : Reading → List Char → Except Usage Reading
  | r, [] => .ok r
  | r, c :: rest =>
      match spec.options.find? fun o => o.short = some c with
      | none => .error .unknownArgument
      | some o =>
          if takesValue o then
            r.typeValued o <| match rest with
              | [] => none
              | '=' :: value => some (String.ofList value)
              | value => some (String.ofList value)
          else
            match r.typeOption o [] with
            | .error e => .error e
            | .ok r => typeShort spec r rest

/-- Whether the next word is the value of the option before it. -/
def wantsValue (r : Reading) : Bool :=
  match r.pending with
  | some (_, []) => true
  | _ => false

/-- A word that is neither an option nor a command. Nothing but a value may be there. -/
def typeWord (r : Reading) (word : String) : Except Usage Reading :=
  match r.pending with
  | some (o, []) => .ok { r with pending := some (o, [word]) }
  | _ => .error .unknownArgument

/-- Reads words up to the name of a command: the answers, and the command with the words behind it.
After `--` no word is an option. -/
def words (spec : Spec) :
    Reading → List String → Except Usage (Answers × Option (String × List String))
  | r, [] => do return ((← r.settle).answers, none)
  | r, word :: rest =>
      if ¬ r.wantsValue ∧ spec.commands.contains word then do
        return ((← r.settle).answers, some (word, rest))
      else
        match word.toList with
        | ['-', '-'] =>
            if rest = [] then do return ((← r.settle).answers, none) else .error .unknownArgument
        | '-' :: '-' :: long => (r.typeLong spec long).bind (words spec · rest)
        | '-' :: c :: short => (typeShort spec r (c :: short)).bind (words spec · rest)
        | _ => (r.typeWord word).bind (words spec · rest)

end Reading

/-- Looks the options that were not typed up in the environment. -/
def fromEnvironment (environment : Environment) : List Opt → Answers → Except Usage Answers
  | [], as => .ok as
  | o :: os, as =>
      match as.find? o.name, o.variableName.bind environment.find? with
      | none, some value => (answer as o false [value]).bind (fromEnvironment environment os)
      | _, _ => fromEnvironment environment os as

def read (spec : Spec) (environment : Environment) (ws : List String) :
    Except Usage (Answers × Option (String × List String)) := do
  let (answers, rest) ← Reading.words spec {} ws
  let answers ← fromEnvironment environment spec.options answers
  return (answers, rest)

def incomplete (spec : Spec) (as : Answers) : Bool :=
  spec.options.any fun o => o.required && (as.find? o.name).isNone

end QueryBench.CommandLine
