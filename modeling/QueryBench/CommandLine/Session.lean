import QueryBench.CommandLine.EnvironmentFile
import QueryBench.CommandLine.Options
import QueryBench.Run.Schedule

/- What the program does: from its words, its environment, its input and its directory to what it
   writes, the files that it leaves, and its exit code. The clock of a run moves with the time that its
   executors wait. -/
namespace QueryBench.CommandLine
open Latency

structure World where
  words : List String
  environment : Environment
  input : Source
  directory : Directory
  now : Moment

/-- What was written to the two outputs, and the files that are there. -/
structure Console where
  output : Array UInt8 := #[]
  error : Array UInt8 := #[]
  directory : Directory

namespace Console

def print (c : Console) (bs : List UInt8) : Console := { c with output := c.output ++ bs }

def say (c : Console) (s : String) : Console := c.print (Text.bytes s)

def warn (c : Console) (s : String) : Console := { c with error := c.error ++ Text.bytes s }

end Console

/-- An exit code and what was written until then. -/
abbrev Ended := Nat × Console

def fail (c : Console) (s : String) : Ended := (1, c.warn (s ++ "\n"))

structure Logger where
  filter : Log.Filter
  style : Log.Style
  destination : Log.Destination
  /-- The text of the time that events are given. -/
  time : String

def Logger.log (l : Logger) (level : Log.Level) (target message : String)
    (fields : List (String × Log.Value)) (c : Console) : Console :=
  let e : Log.Event := { level, target, message, fields }
  if l.filter.showsEvent e then
    let line := l.style.line l.time e ++ "\n"
    match l.destination with
    | .output => c.say line
    | .error => c.warn line
  else c

def number (n : Nat) : Log.Value := .json (.nat n)

def truth (b : Bool) : Log.Value := .json (.bool b)

/-- Six digits behind the seconds. -/
def timeText (m : Moment) : String :=
  m.dateText ++ "T" ++ m.clockText ++ "." ++ Text.digits 6 (m.nanos % nanosPerSecond / 1000) ++ "Z"

/-! ## Writing queries -/

/-- Zero asks for a seed made of the time, which is never zero. -/
def resolveSeed (now : Moment) (seed : UInt64) : UInt64 :=
  if seed ≠ 0 then seed
  else
    let derived := UInt64.ofNat now.toNanos.toNat
    if derived = 0 then 1 else derived

def logGenerating (l : Logger) (g : Generate.Config) (c : Console) : Console :=
  match Generate.prepare g with
  | .error _ => c
  | .ok (kind, _) =>
      if (g.format.database g.useTimeBucket).supports kind then
        l.log .info "tsbench_query_gen::generate" "generating queries"
          [("backend", .quoted g.format.tag), ("query_type", .shown g.kindTag),
            ("scale", number g.scale), ("seed", number g.seed.toNat),
            ("queries", number g.queries)] c
      else c

def logGenerated (l : Logger) (s : Generate.Summary) (c : Console) : Console :=
  let c := s.byLabel.foldl (fun c (label, n) =>
    l.log .debug "tsbench_query_gen::generate" "generated queries"
      [("label", .shown label), ("count", number n)] c) c
  l.log .info "tsbench::commands::generate_queries" "query generation complete"
    [("written", number s.written), ("labels", number s.byLabel.length)] c

def generate (l : Logger) (g : Generate.Config) (file : Option String) (now : Moment)
    (c : Console) : Ended :=
  let seed := resolveSeed now g.seed
  let c :=
    if g.seed = 0 then
      l.log .info "tsbench::commands::common" "using seed derived from the current time"
        [("seed", number seed.toNat)] c
    else c
  let g := { g with seed }
  let (result, sink) := Generate.run g {}
  let bytes := sink.accepted.toList
  let stored : Except Fault Console :=
    match file with
    | none => .ok ((logGenerating l g c).print bytes)
    | some path =>
        match c.directory.write path bytes with
        | (.error fault, _) => .error fault
        | (.ok (), directory) => .ok (logGenerating l g { c with directory })
  let failed (cause : String) (c : Console) : Ended :=
    fail c ("Generate queries command failed: " ++ cause)
  match stored, result with
  | .error fault, _ => failed ("cannot create " ++ file.getD "" ++ ": " ++ fault.message) c
  | .ok c, .error e => failed e.message c
  | .ok c, .ok summary => (0, logGenerated l summary c)

/-! ## Running queries -/

def logStarting (l : Logger) (r : Run.Config) : Console → Console :=
  l.log .info "tsbench_runner::runner" "starting benchmark run"
    [("workers", number r.workers), ("limit", number r.limit), ("burn_in", number r.burnIn),
      ("prewarm_queries", truth r.prewarm), ("hash_workers", truth r.hashWorkers)]

def logFile (l : Logger) (target message : String) (file : Option String) (c : Console) : Console :=
  match file with
  | none => c
  | some path => l.log .info target message [("path", .shown path)] c

def logScanned (l : Logger) (scanned : Option Nat) (c : Console) : Console :=
  match scanned with
  | none => c
  | some n => l.log .info "tsbench_runner::scanner" "query scan complete" [("scanned", number n)] c

def logSummary (l : Logger) (r : Run.Config) (s : RunSummary) (c : Console) : Console :=
  let c :=
    if 0 < r.burnIn ∧ r.burnIn ≤ s.burnedIn then
      l.log .info "tsbench_stats::processor" "burn-in complete" [("burned_in", number s.burnedIn)] c
    else c
  let c := logFile l "tsbench_stats::processor" "wrote HDR latencies" r.latenciesFile c
  let c := logFile l "tsbench_runner::results" "wrote results file" r.resultsFile c
  l.log .info "tsbench::commands::run_queries" "benchmark run complete"
    [("queries", number s.queries), ("wall_clock_secs", .json (.float s.wallClock))] c

def runInput (l : Logger) (r : Run.Config) (latency : Option Duration) (input : Source)
    (c : Console) : Ended :=
  let executor := Run.Executor.noop latency r.debug r.printResponses
  let outcome := Run.run r executor input {} {} c.directory
  let c := { c with directory := outcome.directory }
  let c := if outcome.phase = .created then c else logScanned l outcome.scanned (logStarting l r c)
  let c := (c.say outcome.printed).print outcome.summary.accepted.toList
  let c := { c with error := c.error ++ outcome.interim.accepted }
  match outcome.result with
  | some (.ok summary) => (0, logSummary l r summary c)
  | some (.error e) => fail c ("Run queries command failed: " ++ e.message)
  | none => (1, c)

def run (l : Logger) (r : Run.Config) (latency : Option Duration) (file : Option String)
    (input : Source) (c : Console) : Ended :=
  let failed (cause : String) : Ended := fail c ("Run queries command failed: " ++ cause)
  match r.check, file with
  | .error e, _ => failed (Run.Error.config e).message
  | .ok (), none => runInput l r latency input c
  | .ok (), some path =>
      match c.directory.source path with
      | .error fault => failed ("cannot open " ++ path ++ ": " ++ fault.message)
      | .ok source => runInput l r latency source c

/-! ## Listing kinds of query -/

def kindLine (formats : List Format) (width : Nat) (tag : String) (kind : Kind) : String :=
  let supported := (formats.filter fun f => (f.database false).supports kind).map Format.tag
  if supported = [] then ""
  else
    Text.padRight width ' ' tag ++ "  " ++ kind.toText ++ " [" ++
      String.intercalate ", " supported ++ "]\n"

def kindsText (formats : List Format) : String :=
  let width := (Kind.registry.map fun (tag, _) => Text.size tag).foldl max 0
  String.join (Kind.registry.map fun (tag, kind) => kindLine formats width tag kind)

/-! ## The program -/

def versionText : String := "tsbench 0.4.0-nightly\n"

/-- What filters the log where nothing is said about it. -/
def defaultFilter : String := "info"

def perform (w : World) (request : Request) (c : Console) : Ended :=
  match request.log.toFilter defaultFilter with
  | .error e => fail c ("Initializing logs failed: " ++ e.message)
  | .ok filter =>
      let l : Logger :=
        { filter
          style := { format := request.log.format }
          destination := request.log.destination
          time := timeText w.now }
      match request.command with
      | none => (0, c.say "command required, -h/--help for help\n")
      | some (.generate g file) => generate l g file w.now c
      | some (.run r latency file) => run l r latency file w.input c
      | some (.kinds format) => (0, c.say (kindsText (format.elim Format.all ([·]))))

def environmentFile : String := ".env"

def World.variables (w : World) : Except EnvironmentFile.Error Environment :=
  match w.directory.content? environmentFile with
  | none => .ok w.environment
  | some bs => EnvironmentFile.load bs w.environment

/-- Reads the environment file, then the words, and does what they ask for. -/
def session (w : World) : Ended :=
  let c : Console := { directory := w.directory }
  match w.variables with
  | .error e => fail c ("FATAL Error loading config from: " ++ e.message ++ "\nAborting")
  | .ok environment =>
      match Request.ofWords environment w.words with
      | .error .version => (0, c.say versionText)
      | .error .help => (0, c)
      | .error _ => (2, c)
      | .ok request => perform w request c

end QueryBench.CommandLine
