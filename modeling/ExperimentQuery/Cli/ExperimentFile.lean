import ExperimentQuery.Experiment.Codec
import ExperimentQuery.Plan.Basic
import ExperimentQuery.Query
import ExperimentQuery.Settings.Basic

/-!
# Experiment files

A file describes an experiment with everything that its query is compiled from.

* `ExperimentFile`, `ExperimentFile.ofJson?`;
* **`ExperimentFile.settingsWith`**: the settings that the query is compiled with;
* `ExperimentFile.query`, `ExperimentFile.plan`.
-/

namespace ExperimentQuery

/-- The description of an experiment. -/
structure ExperimentFile where
  settings : ExperimentSettings
  /-- The naming of events; the one of the program's settings when it is missing. -/
  events : Option EventNaming := none
  metrics : List Metric
  activation : Option Metric := none
  dimension : Option Dimension := none
  deriving Repr

namespace ExperimentFile

/-- The description of an experiment. -/
def ofJson? (v : Json) : Option ExperimentFile := do
  let r ← v.record? ["settings", "events", "metrics", "activation", "dimension"]
  return {
    settings := ← r.required "settings" ExperimentSettings.ofJson?
    events := ← r.optional "events" EventNaming.ofJson?
    metrics := ← r.required "metrics" (Json.list? Metric.ofJson?)
    activation := ← r.optional "activation" Metric.ofJson?
    dimension := ← r.optional "dimension" Dimension.ofJson? }

/-- **The settings of the experiment** with the naming of its file, or else of the program's
settings. -/
def settingsWith (f : ExperimentFile) (s : Settings) : ExperimentSettings :=
  f.settings.withEvents (f.events.getD s.naming)

/-- The query for the results of the experiment. -/
def query (f : ExperimentFile) (s : Settings) : Query :=
  compileExperiment (f.settingsWith s) f.metrics f.activation f.dimension

/-- The plan of the experiment. -/
def plan (f : ExperimentFile) (s : Settings) : ExperimentPlan :=
  .build (f.settingsWith s) f.metrics f.activation f.dimension

end ExperimentFile

/-- The parameters of a value query, what they leave out being filled in from the settings. -/
def MetricValueParams.withSettings (p : MetricValueParams) (s : Settings) (byDate : Bool) :
    MetricValueParams :=
  { p with
    includeByDate := p.includeByDate || byDate || s.includeByDate
    extraUserIdProperty := p.extraUserIdProperty <|> s.naming.extraUserIdProperty }

end ExperimentQuery
