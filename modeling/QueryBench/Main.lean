import QueryBench.CommandLine.Session
import Std.Time.DateTime.Timestamp

/- The program itself. It looks up what the session may need, and carries out what the session comes
   to. -/
namespace QueryBench
open CommandLine

def look (d : Directory) (path : String) : IO Directory := do
  let mut d := d
  for place in Directory.steps path do
    match ← (IO.FS.readBinFile place).toBaseIO with
    | .ok content => d := d.put place content.toList
    | .error (.inappropriateType ..) => d := { d with folders := place :: d.folders }
    | .error _ => break
  return d

/-- Looks up the variables that stand for options or occur in the environment file. -/
def lookVariables (d : Directory) : IO Environment := do
  let text := ((d.content? environmentFile).bind Text.ofBytes?).getD ""
  let mut environment : Environment := []
  for name in variableNames ++ EnvironmentFile.mentioned text.toList do
    if let some value ← IO.getEnv name then
      environment := environment.alter name fun _ => value
  return environment

partial def readAll (input : IO.FS.Stream) (before : ByteArray) : IO ByteArray := do
  let more ← input.read 65536
  if more.isEmpty then return before else readAll input (before ++ more)

def lookNow : IO Moment := do
  let now ← Std.Time.Timestamp.now
  return Moment.ofNanos now.toNanosecondsSinceUnixEpoch.val

/-- The world with the files and the input that a command asks for. -/
def lookAround (words : List String) : IO World := do
  let directory ← look {} environmentFile
  let w : World :=
    { words
      environment := ← lookVariables directory
      input := .ofBytes []
      directory
      now := ← lookNow }
  let command := do
    let environment ← w.variables.toOption
    (← (Request.ofWords environment words).toOption).command
  match command with
  | none => return w
  | some command =>
      let directory ← command.files.foldlM look w.directory
      if command.readsInput then
        return { w with directory, input := .ofBytes (← readAll (← IO.getStdin) .empty).toList }
      else return { w with directory }

def carryOut (w : World) (c : Console) : IO Unit := do
  (← IO.getStdout).write ⟨c.output⟩
  (← IO.getStderr).write ⟨c.error⟩
  for (place, content) in c.directory.files do
    if w.directory.content? place ≠ some content then
      IO.FS.writeBinFile place ⟨content.toArray⟩

end QueryBench

open QueryBench in
def main (words : List String) : IO UInt32 := do
  let w ← lookAround words
  let (code, c) := CommandLine.session w
  carryOut w c
  return UInt32.ofNat code
