import EventFeed.Command.Complaint
import EventFeed.Command.Order
import EventFeed.Environment.Entry
import EventFeed.Flow.Delivery
import EventFeed.Flow.Summary

/-!
# Performing orders

What each tool does, from its words and variables to what it prints. The environment file of the working
directory, or of a directory above it, is offered before the words are read. A tool ends in success, in a
complaint, or before it began because of its words; a run of insertions that waits for ever does not end.
-/

namespace EventFeed.Command

inductive Outcome where
  | printed (text : String)
  | failed (complaint : Complaint)
  | stopped (stop : Stop)
  | waiting
  deriving DecidableEq, Repr

/-- The number that a tool leaves behind; none when it does not end. -/
def Outcome.exitCode? : Outcome → Option Nat
  | .printed _ | .stopped .helpWanted => some 0
  | .failed _ => some 1
  | .stopped _ => some 2
  | .waiting => none

def Outcome.output : Outcome → String
  | .printed text => text
  | _ => ""

/-- The name of the environment file that is looked for without being named. -/
def envFileName : FileName := Utf8.ofString ".env"

def envFileIn (names : List FileName) : Path :=
  (Path.ofNames names).join envFileName

/-- That file in a directory, whose names come from the innermost one outwards, and in those above it. -/
def envFilesFrom : List FileName → List Path
  | [] => [envFileIn []]
  | name :: outer => envFileIn (name :: outer).reverse :: envFilesFrom outer

/-- The first of some paths at which a file stands. Missing files and directories are passed over; at any other
fault the search is given up. -/
def firstFile : List Path → Errand (Option Content)
  | [] => return none
  | path :: others => do
      match ← Errand.look path with
      | .ok (.file content) => return some content
      | .ok (.directory _) | .error .noSuchFile => firstFile others
      | .error _ => return none

/-- Offers the environment file of the working directory or, if it has none, of the nearest directory above that
has one. What is wrong with the file does not matter. -/
def loadUsual (environment : Environment) : Errand Environment := do
  match ← Errand.whereabouts with
  | .error _ => return environment
  | .ok names =>
      match ← firstFile (envFilesFrom names.reverse) with
      | some content => return (environment.load content).1
      | none => return environment

def loadNamed (environment : Environment) (path : Path) : Errand (Except Complaint Environment) := do
  let content := match ← Errand.look path with
    | .ok found => found.content
    | .error fault => .closed fault
  match environment.load content with
  | (environment, none) => return .ok environment
  | (_, some fault) => return .error (.ofEnvFile path fault)

def readFile (head : String) (path : Path) : Errand (Except Complaint String) := do
  match ← Errand.look path with
  | .error fault => return .error ⟨head, [fault.message]⟩
  | .ok found =>
      match found.content.wholeText with
      | .error fault => return .error ⟨head, [fault.message]⟩
      | .ok text => return .ok text

def readColumns (path : Path) (text : String) : Except Complaint (List Column) :=
  match Json.parseText text with
  | .error error => .error ⟨path.text ++ " is not valid JSON", [error.message]⟩
  | .ok (.array items) =>
      match Document.decodeJson (Json.array items) with
      | .error error => .error ⟨"invalid column definition", [error.message]⟩
      | .ok columns => .ok columns
  | .ok _ => .error ⟨"JSON data must be an array", []⟩

def shown (document : Json) : String :=
  document.indented ++ "\n"

def shownDone (document : Json) : String :=
  shown document ++ "+ done\n"

/-- The answer to a query as it is printed. When tracing was asked for, a trace stands for the whole. -/
def shownTrace (debug : Bool) (document : Json) : String :=
  match document with
  | .object members =>
      match Json.member? "debug" members with
      | some (.string trace) => if debug then trace ++ "\n" else shown document
      | _ => shown document
  | _ => shown document

def performCall (cluster : Client.Settings) (head : String) (call : Client.Call)
    (display : Json → String) : Errand Outcome := do
  match cluster.base with
  | .error fault => return .failed (.ofSettings (.settings fault.message))
  | .ok base =>
      match (← Client.perform base call Metrics.empty).1 with
      | .error failure => return .failed (.ofFailure head failure)
      | .ok document => return .printed (display document)

def performCreate (cluster : Client.Settings) (table : String) (path : Path) : Errand Outcome := do
  match ← readFile ("could not open JSON table file " ++ path.text) path with
  | .error complaint => return .failed complaint
  | .ok text =>
      match readColumns path text with
      | .error complaint => return .failed complaint
      | .ok columns =>
          performCall cluster "create_table failed" (.createTable table ⟨columns, none⟩) shownDone

def performQuery (cluster : Client.Settings) (table : String) (path : Path)
    (options : Client.QueryOptions) : Errand Outcome := do
  match ← readFile ("could not read query file " ++ path.text) path with
  | .error complaint => return .failed complaint
  | .ok script =>
      performCall cluster "query failed" (.query table script options) (shownTrace options.debug)

def performRun (cluster : Client.Settings) (settings : Flow.Settings) : Errand Outcome := do
  match cluster.base with
  | .error fault => return .failed (.ofSettings (.settings fault.message))
  | .ok base =>
      match settings.objection? with
      | some abort => return .failed ⟨"invalid ingest settings", [abort.message]⟩
      | none =>
          let found ← Errand.look settings.input
          match (← Flow.deliver settings base found).2 with
          -- With settings that are accepted no run breaks off unfinished.
          | .stalled | .unfinished => return .waiting
          | .aborted abort => return .failed (.ofAbort abort)
          | .finished report =>
              let rate := report.progress.throughput (← Errand.timePassed)
              return .printed (Flow.summary settings.input settings.table report rate)

/-- Takes the port for metrics, and runs. -/
def performInsert (cluster : Client.Settings) (job : InsertJob) : Errand Outcome := do
  if job.metricsPort = 0 then performRun cluster job.settings
  else
    match ← Errand.claimPort job.metricsPort with
    | some fault => return .failed ⟨"could not start metrics server", [fault.message]⟩
    | none => performRun cluster job.settings

def Order.perform (order : Order) : Errand Outcome :=
  match order.job with
  | .status => performCall order.cluster "status failed" .status shown
  | .initCluster partitions =>
      performCall order.cluster "init_cluster failed" (.initCluster partitions) shownDone
  | .inviteNode host port =>
      performCall order.cluster "invite_node failed" (.inviteNode host port) shownDone
  | .describeTable table =>
      performCall order.cluster "describe_table failed" (.describeTable table) shown
  | .createTable table path => performCreate order.cluster table path
  | .query table path options => performQuery order.cluster table path options
  | .insert job => performInsert order.cluster job

def Order.envFile? (order : Order) : Option Path :=
  match order.job with
  | .insert job => job.envFile
  | _ => none

/-- The order that counts: when the words name an environment file, they are read once more after its
variables were offered. -/
def Tool.finalOrder (tool : Tool) (environment : Environment) (words : List String) :
    Errand (Except Outcome Order) :=
  match tool.order environment words with
  | .error stop => return .error (.stopped stop)
  | .ok order =>
      match order.envFile? with
      | none => return .ok order
      | some path => do
          match ← loadNamed environment path with
          | .error complaint => return .error (.failed complaint)
          | .ok environment => return (tool.order environment words).mapError .stopped

def Tool.run (tool : Tool) (environment : Environment) (words : List String) : Errand Outcome := do
  match ← tool.finalOrder (← loadUsual environment) words with
  | .error outcome => return outcome
  | .ok order => order.perform

end EventFeed.Command
