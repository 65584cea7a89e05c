import ExperimentQuery.Credentials
import ExperimentQuery.Experiment.Codec
import ExperimentQuery.Interpreter.Run
import ExperimentQuery.Settings.Environment
import ExperimentQuery.Toml.Parser
import ExperimentQuery.Validation.Basic

/-!
# Settings

The settings of the program are a TOML document. Every part has a default, so that an empty
document is as good as none.

* `Settings`, `ConnectionSettings`: the parts;
* `SettingsError`, `SettingsError.message`;
* **`Settings.read`**: the settings of a document;
* `Settings.naming`, `Settings.features`, `Settings.connection`: what the settings say.
-/

namespace ExperimentQuery

/-- The credentials of a project, in which references to the environment may stand. -/
structure ConnectionSettings where
  projectId : String
  username : String := ""
  secret : String := ""
  deriving Repr, DecidableEq

/-- The filter of log lines when none is given. -/
def defaultLogFilter : String := "expql=info"

/-- The settings of the program. -/
structure Settings where
  /-- The naming of events for experiments that bring none. -/
  events : EventNaming := {}
  includeByDate : Bool := false
  premiumFeatures : List String := []
  batchSize : Nat := defaultBatchSize
  logFilter : String := defaultLogFilter
  /-- Connections by name, the names in order. -/
  connections : List (String × ConnectionSettings) := []
  deriving Repr, DecidableEq

/-- Why settings cannot be used. -/
inductive SettingsError where
  | fileNotFound (path : String)
  | unreadable (reason : String)
  | parse
  | missingEnvVar (name : String)
  | connectionNotFound (name : String)
  | unknownFeature (name : String)
  deriving Repr, DecidableEq

/-- What is said about a failure. -/
def SettingsError.message : SettingsError → String
  | .fileNotFound path => "Config file not found: " ++ path
  | .unreadable reason => "Failed to read config file: " ++ reason
  | .parse => "Failed to parse config file: not the settings of this program"
  | .missingEnvVar name => "Missing environment variable: " ++ name
  | .connectionNotFound name => "Connection not found: " ++ name
  | .unknownFeature name => "Unknown premium feature: " ++ name

/-! ## Documents -/

/-- The fields that a value gives for a part of the settings; the items of an array are the fields
in order, and what follows the last field does not count. -/
def settingsRecord? (names : List String) : Json → Option Record
  | .arr items => (Json.arr (items.take names.length)).record? names
  | v => v.record? names

/-- The naming of events. -/
def eventsOfSettings? : Json → Option EventNaming
  | .arr items => EventNaming.ofJson? (.arr (items.take 4))
  | v => EventNaming.ofJson? v

/-- The credentials of a project. -/
def ConnectionSettings.ofJson? (v : Json) : Option ConnectionSettings := do
  let r ← settingsRecord? ["project_id", "username", "secret"] v
  return {
    projectId := ← r.required "project_id" Json.string?
    username := ← r.withDefault "username" "" Json.string?
    secret := ← r.withDefault "secret" "" Json.string? }

/-- The members of the credentials of a project. -/
def ConnectionSettings.toJson (c : ConnectionSettings) : Json :=
  .obj [("project_id", .str c.projectId), ("username", .str c.username), ("secret", .str c.secret)]

/-- The connections of the settings. -/
def connectionsOfSettings? (v : Json) : Option (List (String × ConnectionSettings)) := do
  let members ← v.members?
  return Ordered.ofList (← members.mapM fun m => do return (m.1, ← ConnectionSettings.ofJson? m.2))

namespace Settings

/-- The defaults of queries. -/
def defaultsOfJson? (v : Json) : Option (Bool × List String) := do
  let r ← settingsRecord? ["include_by_date", "premium_features"] v
  return (← r.withDefault "include_by_date" false Json.bool?,
    ← r.withDefault "premium_features" [] Json.strings?)

/-- The number of users in a batch. -/
def batchSizeOfJson? (v : Json) : Option Nat := do
  let r ← settingsRecord? ["batch_size"] v
  r.withDefault "batch_size" defaultBatchSize (Json.natBelow? 64)

/-- The filter of log lines. -/
def filterOfJson? (v : Json) : Option String := do
  let r ← settingsRecord? ["filter"] v
  r.withDefault "filter" defaultLogFilter Json.string?

/-- Settings. -/
def ofJson? (v : Json) : Option Settings := do
  let r ← settingsRecord? ["events", "defaults", "engine", "logging", "connections"] v
  let (includeByDate, premiumFeatures) ← r.withDefault "defaults" (false, []) defaultsOfJson?
  return {
    events := ← r.withDefault "events" {} eventsOfSettings?
    includeByDate
    premiumFeatures
    batchSize := ← r.withDefault "engine" defaultBatchSize batchSizeOfJson?
    logFilter := ← r.withDefault "logging" defaultLogFilter filterOfJson?
    connections := ← r.withDefault "connections" [] connectionsOfSettings? }

/-- The members of settings. -/
def toJson (s : Settings) : Json :=
  .obj [("events", s.events.toJson),
    ("defaults", .obj [("include_by_date", .bool s.includeByDate),
      ("premium_features", .ofStrings s.premiumFeatures)]),
    ("engine", .obj [("batch_size", .ofNat s.batchSize)]),
    ("logging", .obj [("filter", .str s.logFilter)]),
    ("connections", .obj (s.connections.map fun c => (c.1, c.2.toJson)))]

/-- **The settings of a document.** -/
def read (text : String) : Except SettingsError Settings :=
  match (Toml.parse? text).bind ofJson? with
  | some s => .ok s
  | none => .error .parse

/-! ## What the settings say -/

/-- The naming of events, its empty parts filled from the defaults. -/
def naming (s : Settings) : EventNaming := s.events.withDefaults

/-- The licensed features; every name must be known. -/
def featuresOf (names : List String) : Except SettingsError (List PremiumFeature) :=
  names.mapM fun name => requireSome (PremiumFeature.names.lookup name) (.unknownFeature name)

/-- The licensed features of the settings. -/
def features (s : Settings) : Except SettingsError (List PremiumFeature) :=
  featuresOf s.premiumFeatures

end Settings

/-- A text with its references to the environment replaced. -/
def expandSetting (env : Environment) (text : String) : Except SettingsError String :=
  match expandEnv env text with
  | .ok text => .ok text
  | .error e => .error (.missingEnvVar e.name)

/-- The connection params that the credentials of a project stand for. -/
def ConnectionSettings.resolve (env : Environment) (c : ConnectionSettings) :
    Except SettingsError ConnectionParams := do
  let projectId ← expandSetting env c.projectId
  let secret ← expandSetting env c.secret
  let username ← expandSetting env c.username
  return { projectId, secret, username }

/-- The connection params of a name. -/
def Settings.connection (env : Environment) (s : Settings) (name : String) :
    Except SettingsError ConnectionParams := do
  let c ← requireSome (Ordered.find? name s.connections) (.connectionNotFound name)
  c.resolve env

end ExperimentQuery
