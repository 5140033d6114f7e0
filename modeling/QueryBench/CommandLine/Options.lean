import QueryBench.CommandLine.Arguments
import QueryBench.Log.Options
import QueryBench.Run.Config
import QueryBench.Time.Timestamp
import QueryBench.Workload.Generate

/- The commands of the program, their options, and what a command line asks for. -/
namespace QueryBench.CommandLine

/-! ## Values -/

def word? (s : String) : Option Nat := (Decimal.natural? s.toList).filter (· < UInt64.size)

def positive? (s : String) : Option Nat := (word? s).filter (0 < ·)

def byte? (s : String) : Option Nat :=
  (Decimal.wholeNumber? s.toList).bind fun n => if 0 ≤ n ∧ n < 256 then some n.toNat else none

def moment? (s : String) : Option Moment := (Timestamp.parse s).toOption

def named? {α : Type} (name : α → String) (all : List α) (s : String) : Option α :=
  all.find? fun a => name a = s

/-- An option with one value, which has to be readable. -/
def valued {α : Type} (name : String) (variableName : Option String) (read : String → Option α) :
    Opt :=
  { name, variableName, takes := .one fun s => (read s).isSome }

def text (name : String) (variableName : Option String) : Opt := valued name variableName some

/-- A path has at least one character. -/
def path? (s : String) : Option String := if s = "" then none else some s

def flag (name : String) (variableName : Option String) : Opt :=
  { name, variableName, takes := .flag }

def Answers.get {α : Type} (as : Answers) (name : String) (read : String → Option α)
    (default : α) : α :=
  ((as.value? name).bind read).getD default

/-! ## The log -/

def destination? : String → Option Log.Destination :=
  named? Log.Destination.name Log.Destination.all

def format? : String → Option Log.Format := named? Log.Format.name Log.Format.all

def logOptions : List Opt :=
  [text "log-filter" (some "LOG_FILTER"),
    { name := "verbose", short := some 'v', takes := .count },
    valued "log-destination" (some "LOG_DESTINATION") destination?,
    valued "log-format" (some "LOG_FORMAT") format?]

def helpOption : Opt := { name := "help", short := some 'h', takes := .help }

/-- What is asked of the log; more than 255 times is not counted. -/
def logOf (as : Answers) : Log.Options :=
  { filter := as.value? "log-filter"
    verbose := min 255 (as.values "verbose").length
    destination := as.get "log-destination" destination? .error
    format := as.get "log-format" format? .full }

/-- Reads a command line that has nothing but options of the log. -/
def readLog (environment : Environment) (ws : List String) : Except Usage Log.Options :=
  (read { options := logOptions ++ [helpOption] } environment ws).map fun (as, _) => logOf as

/-! ## Commands -/

def commonOptions : List Opt :=
  logOptions ++ [valued "num-threads" (some "TSBENCH_NUM_THREADS") positive?]

def generateOptions : List Opt :=
  [valued "format" (some "TSBENCH_FORMAT") Format.ofTag?,
    { text "query-type" (some "TSBENCH_QUERY_TYPE") with required := true },
    valued "scale" (some "TSBENCH_SCALE") word?,
    valued "seed" (some "TSBENCH_SEED") word?,
    valued "timestamp-start" (some "TSBENCH_TIMESTAMP_START") moment?,
    valued "timestamp-end" (some "TSBENCH_TIMESTAMP_END") moment?,
    valued "queries" (some "TSBENCH_QUERIES") word?,
    valued "interleaved-generation-group-id" (some "TSBENCH_INTERLEAVED_GENERATION_GROUP_ID") word?,
    valued "interleaved-generation-groups" (some "TSBENCH_INTERLEAVED_GENERATION_GROUPS") word?,
    flag "use-time-bucket" (some "TSBENCH_USE_TIME_BUCKET"),
    { valued "file" (some "TSBENCH_QUERIES_FILE") path? with short := some 'o' }]

def runOptions : List Opt :=
  [{ valued "file" (some "TSBENCH_QUERIES_FILE") path? with short := some 'f' },
    valued "processor" (some "TSBENCH_PROCESSOR") (named? id ["noop"]),
    valued "simulated-latency" (some "TSBENCH_SIMULATED_LATENCY") Duration.ofText?,
    valued "workers" (some "TSBENCH_WORKERS") word?,
    valued "max-queries" (some "TSBENCH_MAX_QUERIES") word?,
    valued "burn-in" (some "TSBENCH_BURN_IN") word?,
    valued "print-interval" (some "TSBENCH_PRINT_INTERVAL") word?,
    valued "reporting-period" (some "TSBENCH_REPORTING_PERIOD") Duration.ofText?,
    flag "prewarm-queries" (some "TSBENCH_PREWARM_QUERIES"),
    flag "hash-workers" (some "TSBENCH_HASH_WORKERS"),
    valued "debug" (some "TSBENCH_DEBUG") byte?,
    flag "print-responses" (some "TSBENCH_PRINT_RESPONSES"),
    { name := "percentiles"
      variableName := some "TSBENCH_PERCENTILES"
      takes := .many fun s => (Decimal.read? s).isSome },
    valued "hdr-latencies" (some "TSBENCH_HDR_LATENCIES") path?,
    valued "results-file" (some "TSBENCH_RESULTS_FILE") path?]

def kindsOptions : List Opt := [valued "format" (some "TSBENCH_FORMAT") Format.ofTag?]

inductive Command where
  /-- Writes queries to a file, or to the output. -/
  | generate (config : Generate.Config) (file : Option String)
  /-- Runs the queries of a file, or of the input, through an executor that waits for some time. -/
  | run (config : Run.Config) (latency : Option Duration) (file : Option String)
  /-- Lists the kinds of query, perhaps only those of one format. -/
  | kinds (format : Option Format)

structure Request where
  log : Log.Options
  command : Option Command

def Command.files : Command → List String
  | .generate _ file => file.toList
  | .run config _ file => file.toList ++ config.latenciesFile.toList ++ config.resultsFile.toList
  | .kinds _ => []

def Command.readsInput : Command → Bool
  | .run _ _ file => file.isNone
  | _ => false

/-- From the first moment of 2016 for thirty hours, unless the options say otherwise. -/
def generateOf (as : Answers) : Command :=
  .generate
    { format := as.get "format" Format.ofTag? .timescale
      kindTag := as.get "query-type" some ""
      scale := as.get "scale" word? 1
      seed := UInt64.ofNat (as.get "seed" word? 0)
      start := as.get "timestamp-start" moment? ⟨1451606400, 0⟩
      finish := as.get "timestamp-end" moment? ⟨1451714400, 0⟩
      queries := as.get "queries" word? 1000
      groupId := as.get "interleaved-generation-group-id" word? 0
      groups := as.get "interleaved-generation-groups" word? 1
      useTimeBucket := as.isTrue "use-time-bucket" }
    (as.value? "file")

def runOf (as : Answers) : Command :=
  .run
    { workers := as.get "workers" word? 1
      limit := as.get "max-queries" word? 0
      burnIn := as.get "burn-in" word? 0
      printInterval := as.get "print-interval" word? 0
      reportingPeriod := (as.value? "reporting-period").bind Duration.ofText?
      prewarm := as.isTrue "prewarm-queries"
      percentiles := match as.find? "percentiles" with
        | none => [50, 90, 95, 99]
        | some g => g.values.filterMap Decimal.read?
      latenciesFile := as.value? "hdr-latencies"
      hashWorkers := as.isTrue "hash-workers"
      debug := as.get "debug" byte? 0
      printResponses := as.isTrue "print-responses"
      resultsFile := as.value? "results-file" }
    ((as.value? "simulated-latency").bind Duration.ofText?)
    (as.value? "file")

def kindsOf (as : Answers) : Command := .kinds ((as.value? "format").bind Format.ofTag?)

structure Entry where
  name : String
  options : List Opt
  command : Answers → Command

def commands : List Entry :=
  [⟨"generate-queries", generateOptions, generateOf⟩, ⟨"run-queries", runOptions, runOf⟩,
    ⟨"query-types", kindsOptions, kindsOf⟩]

def variableNames : List String :=
  (commonOptions ++ commands.flatMap (·.options)).filterMap (·.variableName)

def mainSpec : Spec :=
  { options := commonOptions ++
      [helpOption, { name := "version", short := some 'V', takes := .version }]
    commands := commands.map (·.name) ++ ["help"] }

/-- Reads a command line. The options of the log may stand before or behind the name of the
command. -/
def Request.ofWords (environment : Environment) (ws : List String) : Except Usage Request := do
  let (outer, rest) ← read mainSpec environment ws
  match rest with
  | none => return ⟨logOf outer, none⟩
  | some (name, ws) =>
      match commands.find? fun e => e.name = name with
      | none => throw .help
      | some e =>
          let spec : Spec := { options := commonOptions ++ e.options ++ [helpOption] }
          let (inner, _) ← read spec environment ws
          if incomplete spec inner then throw .missingRequired
          return ⟨logOf (outer.within inner), some (e.command inner)⟩

end QueryBench.CommandLine
