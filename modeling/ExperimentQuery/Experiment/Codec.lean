import ExperimentQuery.Experiment.Basic
import ExperimentQuery.Metric.Codec

/-!
# Experiment documents

How experiments, dimensions, segments and the parameters of value queries are read from JSON and
written to it. Here a part that is missing is written as `null`.

* `ofJson?` and `toJson` of each part: reading and writing.
-/

namespace ExperimentQuery

/-- The naming of a datasource's events. -/
def EventNaming.ofJson? (v : Json) : Option EventNaming := do
  let r ← v.record?
    ["experimentEvent", "experimentIdProperty", "variationIdProperty", "extraUserIdProperty"]
  return {
    experimentEvent := ← r.withDefault "experimentEvent" defaultExposureEvent Json.string?
    experimentIdProperty :=
      ← r.withDefault "experimentIdProperty" defaultExperimentIdProperty Json.string?
    variationIdProperty :=
      ← r.withDefault "variationIdProperty" defaultVariationIdProperty Json.string?
    extraUserIdProperty := ← r.optional "extraUserIdProperty" Json.string? }

/-- The members of a naming. -/
def EventNaming.toJson (n : EventNaming) : Json :=
  .obj [("experimentEvent", .str n.experimentEvent),
    ("experimentIdProperty", .str n.experimentIdProperty),
    ("variationIdProperty", .str n.variationIdProperty),
    ("extraUserIdProperty", .ofOption .str n.extraUserIdProperty)]

/-- An override. -/
def MetricOverride.ofJson? (v : Json) : Option MetricOverride := do
  let r ← v.record? ["id", "windowType", "windowHours", "delayHours"]
  return {
    id := ← r.withDefault "id" "" Json.string?
    windowType := ← r.optional "windowType" WindowKind.ofJson?
    windowHours := ← r.optional "windowHours" Json.number?
    delayHours := ← r.optional "delayHours" Json.number? }

/-- The members of an override. -/
def MetricOverride.toJson (o : MetricOverride) : Json :=
  .obj [("id", .str o.id), ("windowType", .ofOption WindowKind.toJson o.windowType),
    ("windowHours", .ofOption .ofFloat o.windowHours),
    ("delayHours", .ofOption .ofFloat o.delayHours)]

/-- The settings of an experiment. -/
def ExperimentSettings.ofJson? (v : Json) : Option ExperimentSettings := do
  let r ← v.record? ["experimentId", "start", "end", "exposureEvent", "experimentIdProperty",
    "variationIdProperty", "extraUserIdProperty", "metricOverrides"]
  return {
    experimentId := ← r.required "experimentId" Json.string?
    start := ← r.required "start" Time.Instant.ofJson?
    stop := ← r.required "end" Time.Instant.ofJson?
    exposureEvent := ← r.withDefault "exposureEvent" defaultExposureEvent Json.string?
    experimentIdProperty :=
      ← r.withDefault "experimentIdProperty" defaultExperimentIdProperty Json.string?
    variationIdProperty :=
      ← r.withDefault "variationIdProperty" defaultVariationIdProperty Json.string?
    extraUserIdProperty := ← r.optional "extraUserIdProperty" Json.string?
    overrides := ← r.withDefault "metricOverrides" [] (Json.list? MetricOverride.ofJson?) }

/-- The members of an experiment's settings. -/
def ExperimentSettings.toJson (s : ExperimentSettings) : Json :=
  .obj [("experimentId", .str s.experimentId), ("start", s.start.toJson), ("end", s.stop.toJson),
    ("exposureEvent", .str s.exposureEvent),
    ("experimentIdProperty", .str s.experimentIdProperty),
    ("variationIdProperty", .str s.variationIdProperty),
    ("extraUserIdProperty", .ofOption .str s.extraUserIdProperty),
    ("metricOverrides", .arr (s.overrides.map MetricOverride.toJson))]

/-- A dimension. -/
def Dimension.ofJson? (v : Json) : Option Dimension := do
  let r ← v.record? ["id", "name", "expression"]
  return {
    id := ← r.withDefault "id" "" Json.string?
    name := ← r.withDefault "name" "" Json.string?
    expression := ← r.required "expression" Json.string? }

/-- The members of a dimension. -/
def Dimension.toJson (d : Dimension) : Json :=
  .obj [("id", .str d.id), ("name", .str d.name), ("expression", .str d.expression)]

/-- A segment. -/
def Segment.ofJson? (v : Json) : Option Segment := do
  let r ← v.record? ["name", "conditions"]
  return {
    name := ← r.required "name" Json.string?
    conditions := ← r.withDefault "conditions" [] Condition.listOfJson? }

/-- The members of a segment. -/
def Segment.toJson (s : Segment) : Json :=
  .obj [("name", .str s.name), ("conditions", .arr (s.conditions.map Condition.toJson))]

/-- The parameters of a value query. -/
def MetricValueParams.ofJson? (v : Json) : Option MetricValueParams := do
  let r ← v.record? ["name", "metric", "from", "to", "segment", "includeByDate",
    "extraUserIdProperty"]
  return {
    name := ← r.required "name" Json.string?
    metric := ← r.required "metric" Metric.ofJson?
    start := ← r.required "from" Time.Instant.ofJson?
    stop := ← r.required "to" Time.Instant.ofJson?
    segment := ← r.optional "segment" Segment.ofJson?
    includeByDate := ← r.withDefault "includeByDate" false Json.bool?
    extraUserIdProperty := ← r.optional "extraUserIdProperty" Json.string? }

/-- The members of the parameters of a value query. -/
def MetricValueParams.toJson (p : MetricValueParams) : Json :=
  .obj [("name", .str p.name), ("metric", p.metric.toJson), ("from", p.start.toJson),
    ("to", p.stop.toJson), ("segment", .ofOption Segment.toJson p.segment),
    ("includeByDate", .bool p.includeByDate),
    ("extraUserIdProperty", .ofOption .str p.extraUserIdProperty)]

end ExperimentQuery
