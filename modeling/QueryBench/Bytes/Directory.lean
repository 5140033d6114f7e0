import QueryBench.Bytes.Source
import QueryBench.Table
import QueryBench.Text.Split

/- Files by their paths. A path leads through folders to a file or to one more folder; the folder
   that paths start from is always there. -/
namespace QueryBench

structure Directory where
  files : Table String (List UInt8) := []
  /-- The paths of the other folders. -/
  folders : List String := []
  deriving DecidableEq, Repr

namespace Directory

def names (path : String) : List String :=
  (Text.split '/' path).filter fun name => name ≠ "" ∧ name ≠ "."

/-- The places that a path leads to, one behind the other. Paths that lead to the same places have
the same steps. -/
def steps (path : String) : List String :=
  let start := if path.startsWith "/" then "/" else ""
  (List.range (names path).length).map fun n =>
    start ++ String.intercalate "/" ((names path).take (n + 1))

def content? (d : Directory) (place : String) : Option (List UInt8) := d.files.find? place

/-- What is wrong with the first of the places that is no folder. -/
def blocked? (d : Directory) (places : List String) : Option Fault :=
  (places.find? fun place => !d.folders.contains place).map fun place =>
    if (d.content? place).isSome then .notDirectory else .notFound

/-- The place of the file that a path names, or none for a folder. A path with a slash at its end
names no file. -/
def resolve (d : Directory) (path : String) : Except Fault (Option String) :=
  if path = "" then .error .notFound
  else
    match (steps path).getLast? with
    | none => .ok none
    | some place =>
        match d.blocked? (steps path).dropLast with
        | some fault => .error fault
        | none =>
            if d.folders.contains place then .ok none
            else if ¬ path.endsWith "/" then .ok (some place)
            else if (d.content? place).isSome then .error .notDirectory
            else .error .isDirectory

def file? (d : Directory) (path : String) : Option (List UInt8) :=
  match d.resolve path with
  | .ok (some place) => d.content? place
  | _ => none

/-- Puts a file in the place of an older one. -/
def put (d : Directory) (place : String) (content : List UInt8) : Directory :=
  { d with files := d.files.alter place fun _ => content }

def write (d : Directory) (path : String) (content : List UInt8) : Except Fault Unit × Directory :=
  match d.resolve path with
  | .error fault => (.error fault, d)
  | .ok none => (.error .isDirectory, d)
  | .ok (some place) => (.ok (), d.put place content)

/-- What reading from a path gives. A folder can be opened, but every read from it fails. -/
def source (d : Directory) (path : String) : Except Fault Source :=
  match d.resolve path with
  | .error .isDirectory => .error .notFound
  | .error fault => .error fault
  | .ok none => .ok { deliveries := [], failure? := some .isDirectory }
  | .ok (some place) =>
      match d.content? place with
      | none => .error .notFound
      | some bs => .ok (.ofBytes bs)

end Directory

end QueryBench
