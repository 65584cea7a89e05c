import ExperimentQuery.Credentials
import ExperimentQuery.Experiment.Codec
import ExperimentQuery.Query
import ExperimentQuery.Rows

/-!
# Datasources

A datasource document holds sealed connection params and the naming of its events. Opened with the
master key it answers queries: a query is compiled with the datasource's naming, the script is
executed elsewhere, and the body that comes back is decoded.

* `Datasource`: the document, `Datasource.ofJson?` and `Datasource.toJson`;
* **`OpenDatasource.ofKey`**: a document opened with a key;
* `ScriptCall`: a script to be executed and the reading of its body, `ScriptCall.run`;
* `OpenDatasource.experimentQuery`, `OpenDatasource.valueQuery`, and the calls made of them;
* `UnsupportedOperation`, `SourceError`, `SourceProperties`.
-/

namespace ExperimentQuery

/-! ## Documents -/

/-- A stored datasource. -/
structure Datasource where
  id : String
  name : String := ""
  /-- The sealed connection params. -/
  params : String
  events : EventNaming := {}
  deriving Repr, DecidableEq

namespace Datasource

/-- The naming in the settings of a datasource. -/
def settingsOfJson? (v : Json) : Option EventNaming := do
  let r ← v.record? ["events"]
  r.withDefault "events" {} EventNaming.ofJson?

/-- A datasource. -/
def ofJson? (v : Json) : Option Datasource := do
  let r ← v.record? ["id", "name", "params", "settings"]
  return {
    id := ← r.required "id" Json.string?
    name := ← r.withDefault "name" "" Json.string?
    params := ← r.required "params" Json.string?
    events := ← r.withDefault "settings" {} settingsOfJson? }

/-- The members of a datasource. -/
def toJson (d : Datasource) : Json :=
  .obj [("id", .str d.id), ("name", .str d.name), ("params", .str d.params),
    ("settings", .obj [("events", d.events.toJson)])]

end Datasource

/-- What a datasource says about itself. -/
structure SourceProperties where
  queryLanguage : String
  metricCaps : Bool
  segments : Bool
  dimensions : Bool
  hasSettings : Bool
  events : Bool
  deriving Repr, DecidableEq

namespace SourceProperties

/-- The properties of a datasource that answers by scripts. -/
def script : SourceProperties := ⟨"javascript", true, true, true, true, true⟩

/-- The properties of a datasource. -/
def ofJson? (v : Json) : Option SourceProperties := do
  let r ← v.record?
    ["queryLanguage", "metricCaps", "segments", "dimensions", "hasSettings", "events"]
  return {
    queryLanguage := ← r.required "queryLanguage" Json.string?
    metricCaps := ← r.required "metricCaps" Json.bool?
    segments := ← r.required "segments" Json.bool?
    dimensions := ← r.required "dimensions" Json.bool?
    hasSettings := ← r.required "hasSettings" Json.bool?
    events := ← r.required "events" Json.bool? }

/-- The members of a datasource's properties. -/
def toJson (p : SourceProperties) : Json :=
  .obj [("queryLanguage", .str p.queryLanguage), ("metricCaps", .bool p.metricCaps),
    ("segments", .bool p.segments), ("dimensions", .bool p.dimensions),
    ("hasSettings", .bool p.hasSettings), ("events", .bool p.events)]

end SourceProperties

/-- The connection params that are never shown. -/
def sensitiveParams : List String := ["secret"]

/-! ## Errors -/

/-- What a datasource that answers by scripts does not do. -/
inductive UnsupportedOperation where
  | metricAnalysis
  | experimentUnits
  | experimentAggregateUnits
  | experimentMetric
  | dropTable
  | pastExperiments
  | dimensionSlices
  deriving Repr, DecidableEq

/-- What messages call an operation. -/
def UnsupportedOperation.title : UnsupportedOperation → String
  | .metricAnalysis => "metric analysis"
  | .experimentUnits => "experiment units"
  | .experimentAggregateUnits => "experiment aggregate units"
  | .experimentMetric => "experiment metric query"
  | .dropTable => "drop table"
  | .pastExperiments => "past experiments"
  | .dimensionSlices => "dimension slices"

/-- Why a datasource gives no answer. -/
inductive SourceError where
  | unsupported (operation : UnsupportedOperation)
  | execution (reason : String)
  | decode
  deriving Repr, DecidableEq

/-- What is said about a failure. -/
def SourceError.message : SourceError → String
  | .unsupported operation => operation.title ++ " is not supported by this datasource"
  | .execution reason => "script execution failed: " ++ reason
  | .decode => "unexpected response shape"

/-! ## Calls -/

/-- A script to be executed, and how the body that comes back is read. -/
structure ScriptCall (α : Type) where
  script : String
  read : Json → Option α

/-- The answer of a call, for what executing its script yields: a body, or the reason of a
failure. -/
def ScriptCall.run {α : Type} (c : ScriptCall α) (execute : String → Except String Json) :
    Except SourceError α :=
  match execute c.script with
  | .error reason => .error (.execution reason)
  | .ok body =>
    match c.read body with
    | some a => .ok a
    | none => .error .decode

/-- A datasource whose connection params have been opened, or found to be closed to its key. -/
structure OpenDatasource where
  datasource : Datasource
  params : ConnectionParams
  decryptionError : Bool
  deriving Repr, DecidableEq

namespace OpenDatasource

/-- **A datasource opened with a key.** Params that cannot be opened are empty. -/
def ofKey (d : Datasource) (key : Key) : OpenDatasource :=
  let d := { d with events := d.events.withDefaults }
  match ConnectionParams.openText key d.params with
  | .ok params => ⟨d, params, false⟩
  | .error _ => ⟨d, {}, true⟩

/-- The query for the results of an experiment, with the naming of the datasource. -/
def experimentQuery (d : OpenDatasource) (s : ExperimentSettings) (metrics : List Metric)
    (activation : Option Metric) (dimension : Option Dimension) : Query :=
  compileExperiment (s.withEvents d.datasource.events) metrics activation dimension

/-- The query for the values of a metric; the naming of the datasource fills in the property that
users are told apart by. -/
def valueQuery (d : OpenDatasource) (p : MetricValueParams) : Query :=
  compileMetricValue
    { p with
      extraUserIdProperty := p.extraUserIdProperty <|> d.datasource.events.extraUserIdProperty }

/-- The call for the results of an experiment. -/
def experimentResults (d : OpenDatasource) (s : ExperimentSettings) (metrics : List Metric)
    (activation : Option Metric) (dimension : Option Dimension) : ScriptCall (List SummaryRow) :=
  ⟨(d.experimentQuery s metrics activation dimension).script, parseExperimentBody?⟩

/-- The call for the values of a metric. -/
def metricValues (d : OpenDatasource) (p : MetricValueParams) : ScriptCall (List MetricValueRow) :=
  ⟨(d.valueQuery p).script, parseValueBody?⟩

/-- The call that shows whether scripts can be executed at all; any body will do. -/
def connectionTest (day : Time.Date) : ScriptCall Bool :=
  ⟨Script.connectionCheckScript day, fun _ => some true⟩

end OpenDatasource

end ExperimentQuery
