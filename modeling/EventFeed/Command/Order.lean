import EventFeed.Client.Query
import EventFeed.Client.Settings
import EventFeed.Command.Words
import EventFeed.Flow.Settings

/-!
# Orders

What each tool is told to do: where the cluster is, and the job with its details. Every tool has parameters
of its own behind those for the cluster, which all tools share.
-/

namespace EventFeed.Command

inductive Tool where
  | status
  | initCluster
  | inviteNode
  | describeTable
  | createTable
  | query
  | insert
  deriving DecidableEq, Repr

structure InsertJob where
  settings : Flow.Settings
  /-- The port where metrics are served; zero when they are not. -/
  metricsPort : Nat
  /-- The environment file that was named. -/
  envFile : Option Path

inductive Job where
  | status
  | initCluster (partitions : Nat)
  | inviteNode (host : String) (port : Nat)
  | describeTable (table : String)
  | createTable (table : String) (columns : Path)
  | query (table : String) (script : Path) (options : Client.QueryOptions)
  | insert (job : InsertJob)

structure Order where
  cluster : Client.Settings
  job : Job

/-! ## Parameters -/

def shared (name : String) (letter : Option Char) (form : Form) (fallback : String) : Parameter :=
  ⟨name, letter, form, some fallback, false⟩

def required (name : String) (letter : Char) (form : Form) : Parameter :=
  ⟨name, some letter, form, none, true⟩

def optional (name : String) (letter : Option Char) (form : Form) : Parameter :=
  ⟨name, letter, form, none, false⟩

/-- The parameters of all tools. The letter of `help` is the host's. -/
def clusterParameters : List Parameter :=
  [shared "host" (some 'h') .text "OPENSET_HOST",
    shared "port" (some 'p') .port "OPENSET_PORT",
    shared "timeout-secs" none .count "OPENSET_TIMEOUT_SECS",
    optional "help" none .help]

def Tool.ownParameters : Tool → List Parameter
  | .status => []
  | .initCluster => [required "num" 'n' (.signed 1 4294967295)]
  | .inviteNode => [required "newhost" 'n' .text, required "newport" 'o' .port]
  | .describeTable => [required "table" 't' .text]
  | .createTable => [required "table" 't' .text, required "json" 'j' .path]
  | .query =>
      [required "table" 't' .text, required "file" 'f' .path, optional "debug" (some 'd') .flag,
        optional "trim" none .integer, optional "sort" none .text, optional "asc" none .flag]
  | .insert =>
      [⟨"table", some 't', .text, some "OPENSET_TABLE", true⟩, required "json" 'j' .path,
        optional "batch-size" none .count, optional "high-watermark" none .count,
        optional "resume-watermark" none .count, optional "low-batch-threshold" none .count,
        optional "poll-ms" none .count, shared "metrics-port" none .port "OPENSET_METRICS_PORT",
        optional "dotenv" none .path]

def Tool.parameters (tool : Tool) : List Parameter :=
  clusterParameters ++ tool.ownParameters

/-! ## Values that are used when none are given -/

/-- How long an answer is waited for, in seconds. -/
def usualTimeout : Nat := 30

def usualBatch : Nat := 1000

def usualMarks : Flow.Watermarks := ⟨50000, 25000⟩

def usualThreshold : Nat := 5000

/-- How long the sender rests, in thousandths of a second. -/
def usualRest : Nat := 50

/-! ## From values to orders -/

namespace Values

/-- A number that cannot be below zero. -/
def countOr (values : Values) (name : String) (usual : Nat) : Nat :=
  match values.number? name with
  | some number => number.toNat
  | none => usual

def needText (values : Values) (name : String) : Except Stop String :=
  match values.text? name with
  | some text => .ok text
  | none => .error .missingParameter

def needPath (values : Values) (name : String) : Except Stop Path :=
  match values.path? name with
  | some path => .ok path
  | none => .error .missingParameter

def needCount (values : Values) (name : String) : Except Stop Nat :=
  match values.number? name with
  | some number => .ok number.toNat
  | none => .error .missingParameter

def cluster (values : Values) : Client.Settings :=
  { host := (values.text? "host").getD Client.Settings.usualHost
    port := values.countOr "port" Client.Settings.usualPort
    timeout := ⟨values.countOr "timeout-secs" usualTimeout, 0⟩ }

def queryOptions (values : Values) : Client.QueryOptions :=
  { debug := values.has "debug"
    trim := (values.number? "trim").map Int64.ofInt
    sort := values.text? "sort"
    order := if values.has "asc" then some .ascending else none
    sessionTime := none
    segments := none }

def insertJob (values : Values) : Except Stop InsertJob := do
  let table ← values.needText "table"
  let input ← values.needPath "json"
  return {
    settings := {
      input := input
      table := table
      maxBatch := values.countOr "batch-size" usualBatch
      marks := ⟨values.countOr "high-watermark" usualMarks.high,
        values.countOr "resume-watermark" usualMarks.resume⟩
      lowThreshold := values.countOr "low-batch-threshold" usualThreshold
      pollInterval := Duration.ofMilliseconds (values.countOr "poll-ms" usualRest) }
    metricsPort := values.countOr "metrics-port" 0
    envFile := values.path? "dotenv" }

def job (values : Values) : Tool → Except Stop Job
  | .status => .ok .status
  | .initCluster => do return .initCluster (← values.needCount "num")
  | .inviteNode => do return .inviteNode (← values.needText "newhost") (← values.needCount "newport")
  | .describeTable => do return .describeTable (← values.needText "table")
  | .createTable => do return .createTable (← values.needText "table") (← values.needPath "json")
  | .query => do
      return .query (← values.needText "table") (← values.needPath "file") values.queryOptions
  | .insert => do return .insert (← values.insertJob)

end Values

/-- The order that words and variables give to a tool. -/
def Tool.order (tool : Tool) (environment : Environment) (words : List String) : Except Stop Order := do
  let values ← readValues tool.parameters environment words
  return ⟨values.cluster, ← values.job tool⟩

end EventFeed.Command
