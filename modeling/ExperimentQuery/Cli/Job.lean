import ExperimentQuery.Cli.Arguments
import ExperimentQuery.Cli.ExperimentFile
import ExperimentQuery.Metric.Revision

/-!
# Jobs

A job reads its files and the settings, and ends in a report: what is written to the two outputs,
and whether it succeeded. Files, environment variables and random bytes come from a host, in any
monad.

* `Host`, `FileContent`: what a job has of the world;
* `Report`: how a job ends;
* `loadSettings`: the settings from the file that is found first;
* **`Invocation.report`**: the report of an invocation.
-/

namespace ExperimentQuery

/-! ## The world -/

/-- What is found at a path. -/
inductive FileContent where
  | missing
  | unreadable (reason : String)
  | text (content : String)
  deriving Repr, DecidableEq

/-- What a job has of the world. -/
structure Host (m : Type → Type) where
  read : String → m FileContent
  getVariable : String → m (Option String)
  random : Nat → m Bytes

/-- How a job ends. -/
structure Report where
  output : String := ""
  errors : List String := []
  success : Bool := true
  deriving Repr, DecidableEq

/-- The report of a failure. -/
def Report.failure (message : String) : Report := { errors := [message], success := false }

/-- The report of a text with a line break after it. -/
def Report.line (text : String) : Report := { output := text ++ "\n" }

section

variable {m : Type → Type} [Monad m] (h : Host m)

/-! ## Settings -/

/-- The variable that names the settings file. -/
def configVariable : String := "EXPQL_CONFIG"

/-- The variable that holds the master key. -/
def keyVariable : String := "EXPQL_MASTER_KEY"

/-- The settings file in the working directory. -/
def localConfig : String := "expql.toml"

/-- The settings of a file, if it is there. -/
def settingsAt (path : String) : m (Option (Except SettingsError Settings)) := do
  match ← h.read path with
  | .missing => return none
  | .unreadable reason => return some (.error (.unreadable reason))
  | .text content => return some (Settings.read content)

/-- The settings of a file that must be there. -/
def settingsOf (path : String) : m (Except SettingsError Settings) := do
  return (← settingsAt h path).getD (.error (.fileNotFound path))

/-- The settings file of the user, in the directory that the environment gives. -/
def userConfig : m (Option String) := do
  let file := fun (dir : String) => dir ++ "/expql/config.toml"
  match ← h.getVariable "XDG_CONFIG_HOME" with
  | some dir => if dir.startsWith "/" then return some (file dir) else homeConfig file
  | none => homeConfig file
where
  /-- The settings file in the home directory. -/
  homeConfig (file : String → String) : m (Option String) := do
    return ((← h.getVariable "HOME").filter (· ≠ "")).map fun home => file (home ++ "/.config")

/-- The settings of the file that is found first: the one named on the command line or in the
environment, the one in the working directory, the one of the user. Without any the defaults
hold. -/
def loadSettings (config : Option String) : m (Except SettingsError Settings) := do
  match config <|> (← h.getVariable configVariable) with
  | some path => settingsOf h path
  | none =>
    match ← settingsAt h localConfig with
    | some s => return s
    | none =>
      match ← userConfig h with
      | some path => return (← settingsAt h path).getD (.ok {})
      | none => return .ok {}

/-! ## Files -/

/-- The value that a JSON file holds, or what is said about its failure. -/
def readDocument {α : Type} (ofJson? : Json → Option α) (path : String) : ExceptT String m α := do
  match ← h.read path with
  | .missing => throw ("Error reading file '" ++ path ++ "': no such file")
  | .unreadable reason => throw ("Error reading file '" ++ path ++ "': " ++ reason)
  | .text content =>
    match (Json.parseWithFlaws? content).bind ofJson? with
    | some a => return a
    | none => throw ("Error parsing '" ++ path ++ "': not a document of the expected form")

/-- A setting, or what is said about its failure. -/
def ofSettings {α : Type} : Except SettingsError α → ExceptT String m α
  | .ok a => pure a
  | .error e => throw ("Configuration error: " ++ e.message)

/-! ## Jobs -/

/-- Compile an experiment to its script, or to the fingerprint of the script. -/
def compileJob (s : Settings) (file : String) (fingerprint : Bool) : ExceptT String m Report := do
  let query := (← readDocument h ExperimentFile.ofJson? file).query s
  return .line (if fingerprint then query.fingerprint else query.script)

/-- Compile a value query to its script. -/
def metricValueJob (s : Settings) (file : String) (byDate : Bool) : ExceptT String m Report := do
  let params ← readDocument h MetricValueParams.ofJson? file
  return .line (compileMetricValue (params.withSettings s byDate)).script

/-- The report on some metrics: a line for each, those that are refused among the errors. -/
def validationReport (ms : List Metric) (tables : FactTables) (features : List PremiumFeature) :
    Report :=
  let results := ms.map fun metric => (metric.id, metric.check tables features)
  let accepted := results.filterMap fun (id, r) => match r with
    | .ok () => some ("OK: " ++ id ++ "\n")
    | .error _ => none
  let refused := results.filterMap fun (id, r) => match r with
    | .ok () => none
    | .error e => some ("INVALID: " ++ id ++ ": " ++ e.message)
  ⟨String.join accepted, refused, refused.isEmpty⟩

/-- Check metric documents against fact tables. -/
def validateJob (s : Settings) (file factTables : String) : ExceptT String m Report := do
  let ms ← readDocument h (Json.list? Metric.ofStored?) file
  let tables ← readDocument h (Json.list? FactTable.ofJson?) factTables
  return validationReport ms tables (← ofSettings s.features)

/-- Evaluate an experiment over recorded events. -/
def runJob (s : Settings) (file events : String) : ExceptT String m Report := do
  let plan := (← readDocument h ExperimentFile.ofJson? file).plan s
  let events ← readDocument h (Json.list? Event.ofJson?) events
  let rows := decodeExperimentRows (runExperiment plan events)
  return .line (Json.arr (rows.map SummaryRow.toJson)).pretty

/-- The variables that a text refers to. -/
def referencedVariables (text : String) : List String :=
  (referenceParts 0 text.toList).filterMap fun
    | .char _ => none
    | .reference name => some (String.ofList name)

/-- The values of some variables. -/
def environmentOf (names : List String) : m Environment := do
  let values ← names.mapM fun name => do return (name, ← h.getVariable name)
  return fun name => (values.lookup name).join

/-- The master key of the environment, or else a random one; and whether it is the former. -/
def masterKey : m (Key × Bool) := do
  match (← h.getVariable keyVariable).map Key.read with
  | some (.ok key) => return (key, true)
  | _ => return (BitVec.ofNat 256 (← h.random 32).toNat, false)

/-- A random nonce. -/
def freshNonce : m Nonce := do return BitVec.ofNat 96 (← h.random nonceLength).toNat

/-- The warning about a key that is not kept. -/
def keyWarning : String :=
  "Warning: EXPQL_MASTER_KEY is not set; sealed params will not survive this process"

/-- Seal the connection params of a name. -/
def sealJob (s : Settings) (name : String) : ExceptT String m Report := do
  let texts := match Ordered.find? name s.connections with
    | some c => [c.projectId, c.secret, c.username]
    | none => []
  let env ← ExceptT.lift (environmentOf h (texts.flatMap referencedVariables))
  let params ← ofSettings (s.connection env name)
  let (key, kept) ← ExceptT.lift (masterKey h)
  let nonce ← ExceptT.lift (freshNonce h)
  return { Report.line (params.sealedText key nonce) with
    errors := if kept then [] else [keyWarning] }

/-- The report of a job with the settings. -/
def Job.attempt (s : Settings) : Job → ExceptT String m Report
  | .compile file fingerprint => compileJob h s file fingerprint
  | .metricValue file byDate => metricValueJob h s file byDate
  | .validate file factTables => validateJob h s file factTables
  | .run file events => runJob h s file events
  | .sealConnection name => sealJob h s name

/-- **The report of an invocation.** -/
def Invocation.report (i : Invocation) : m Report := do
  let attempt : ExceptT String m Report := do
    let s ← ofSettings (← ExceptT.lift (loadSettings h i.config))
    i.job.attempt h s
  match ← attempt.run with
  | .ok report => return report
  | .error message => return .failure message

end

end ExperimentQuery
