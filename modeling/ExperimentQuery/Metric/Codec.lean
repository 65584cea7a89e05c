import ExperimentQuery.Metric.Basic
import ExperimentQuery.Json.Record
import ExperimentQuery.Time.Reader

/-!
# Metric documents

How metrics and their parts are read from JSON and written to it. Writing leaves out the optional
parts that are missing; reading gives a field that is missing its default.

* `ofJson?` and `toJson` of each part: reading and writing;
* **`Metric.ofJson?`**, **`Metric.toJson`**: the same for a whole definition.
-/

namespace ExperimentQuery

/-! ## Names -/

/-- The names of metric kinds. -/
def MetricKind.names : List (String × MetricKind) :=
  [("count", .count), ("proportion", .proportion), ("binomial", .proportion), ("mean", .mean),
    ("ratio", .ratio), ("quantile", .quantile), ("retention", .retention)]

/-- A metric kind. -/
def MetricKind.ofJson? : Json → Option MetricKind := Json.variant? names

/-- The name of a metric kind. -/
def MetricKind.toJson (k : MetricKind) : Json := .str k.name

/-- The signs of operators. -/
def ConditionOp.signs : List (String × ConditionOp) :=
  [("=", .eq), ("!=", .ne), (">", .gt), (">=", .ge), ("<", .lt), ("<=", .le), ("~", .matching),
    ("!~", .notMatching)]

/-- An operator. -/
def ConditionOp.ofJson? : Json → Option ConditionOp := Json.variant? signs

/-- The sign of an operator. -/
def ConditionOp.toJson (op : ConditionOp) : Json := .str op.sign

/-- The names of aggregations. -/
def Aggregation.names : List (String × Aggregation) :=
  [("sum", .sum), ("count", .count), ("countDistinct", .countDistinct), ("min", .min),
    ("max", .max), ("avg", .avg), ("median", .median)]

/-- An aggregation. -/
def Aggregation.ofJson? : Json → Option Aggregation := Json.variant? names

/-- The name of an aggregation. -/
def Aggregation.toJson (a : Aggregation) : Json := .str (Json.nameIn names a)

/-- The names of units. -/
def TimeUnit.names : List (String × TimeUnit) :=
  [("minutes", .minutes), ("hours", .hours), ("days", .days), ("weeks", .weeks)]

/-- A unit. -/
def TimeUnit.ofJson? : Json → Option TimeUnit := Json.variant? names

/-- The name of a unit. -/
def TimeUnit.toJson (u : TimeUnit) : Json := .str (Json.nameIn names u)

/-- The names of window kinds; the empty name is the one written for no window. -/
def WindowKind.names : List (String × WindowKind) :=
  [("", .none), ("none", .none), ("conversion", .conversion), ("lookback", .lookback)]

/-- A window kind. -/
def WindowKind.ofJson? : Json → Option WindowKind := Json.variant? names

/-- The name of a window kind. -/
def WindowKind.toJson (k : WindowKind) : Json := .str (Json.nameIn names k)

/-- The names of capping kinds; the empty name is the one written for no cap. -/
def CappingKind.names : List (String × CappingKind) :=
  [("", .none), ("none", .none), ("absolute", .absolute)]

/-- A capping kind. -/
def CappingKind.ofJson? : Json → Option CappingKind := Json.variant? names

/-- The name of a capping kind. -/
def CappingKind.toJson (k : CappingKind) : Json := .str (Json.nameIn names k)

/-- The names of what a quantile is taken over. -/
def QuantileScope.names : List (String × QuantileScope) := [("event", .event), ("unit", .unit)]

/-- What a quantile is taken over. -/
def QuantileScope.ofJson? : Json → Option QuantileScope := Json.variant? names

/-- The name of what a quantile is taken over. -/
def QuantileScope.toJson (q : QuantileScope) : Json := .str (Json.nameIn names q)

/-- The names of owners; the empty name is the user interface. -/
def ManagedBy.names : List (String × ManagedBy) := [("", .ui), ("api", .api)]

/-- An owner. -/
def ManagedBy.ofJson? : Json → Option ManagedBy := Json.variant? names

/-- The name of an owner. -/
def ManagedBy.toJson (m : ManagedBy) : Json := .str (Json.nameIn names m)

/-- An instant in the notation of RFC 3339. -/
def Time.Instant.ofJson? (v : Json) : Option Time.Instant := v.string?.bind Time.Instant.read?

/-- The text of an instant. -/
def Time.Instant.toJson (t : Time.Instant) : Json := .str t.rfc3339

/-! ## Parts -/

/-- A column of a fact table. -/
def ColumnRef.ofJson? (v : Json) : Option ColumnRef := do
  let r ← v.record? ["factTableId", "column", "filters", "aggregateFilter", "aggregateFilterColumn"]
  return {
    factTable := ← r.required "factTableId" Json.string?
    column := ← r.optional "column" Json.string?
    filters := ← r.withDefault "filters" [] Json.strings?
    aggregateFilter := ← r.optional "aggregateFilter" Json.string?
    aggregateFilterColumn := ← r.optional "aggregateFilterColumn" Json.string? }

/-- The members of a column. -/
def ColumnRef.toJson (c : ColumnRef) : Json :=
  .obj (("factTableId", .str c.factTable) :: Json.present "column" .str c.column ++
    ("filters", .ofStrings c.filters) :: Json.present "aggregateFilter" .str c.aggregateFilter ++
    Json.present "aggregateFilterColumn" .str c.aggregateFilterColumn)

/-- A condition. -/
def Condition.ofJson? (v : Json) : Option Condition := do
  let r ← v.record? ["column", "operator", "value"]
  return {
    column := ← r.required "column" Json.string?
    op := ← r.required "operator" ConditionOp.ofJson?
    value := ← r.required "value" Json.string? }

/-- The members of a condition. -/
def Condition.toJson (c : Condition) : Json :=
  .obj [("column", .str c.column), ("operator", c.op.toJson), ("value", .str c.value)]

/-- A list of conditions. -/
def Condition.listOfJson? : Json → Option (List Condition) := Json.list? Condition.ofJson?

/-- The window of a current document; a length that is not given is zero. -/
def WindowSettings.ofJson? (v : Json) : Option WindowSettings := do
  let r ← v.record? ["type", "delayValue", "delayUnit", "windowValue", "windowUnit"]
  return {
    kind := ← r.withDefault "type" .none WindowKind.ofJson?
    delayValue := ← r.withDefault "delayValue" 0.0 Json.number?
    delayUnit := ← r.withDefault "delayUnit" .hours TimeUnit.ofJson?
    windowValue := ← r.withDefault "windowValue" 0.0 Json.number?
    windowUnit := ← r.withDefault "windowUnit" .hours TimeUnit.ofJson? }

/-- The members of a window. -/
def WindowSettings.toJson (w : WindowSettings) : Json :=
  .obj [("type", w.kind.toJson), ("delayValue", .ofFloat w.delayValue),
    ("delayUnit", w.delayUnit.toJson), ("windowValue", .ofFloat w.windowValue),
    ("windowUnit", w.windowUnit.toJson)]

/-- A cap. -/
def CappingSettings.ofJson? (v : Json) : Option CappingSettings := do
  let r ← v.record? ["type", "value"]
  return {
    kind := ← r.withDefault "type" .none CappingKind.ofJson?
    value := ← r.withDefault "value" 0.0 Json.number? }

/-- The members of a cap. -/
def CappingSettings.toJson (c : CappingSettings) : Json :=
  .obj [("type", c.kind.toJson), ("value", .ofFloat c.value)]

/-- A prior. -/
def PriorSettings.ofJson? (v : Json) : Option PriorSettings := do
  let r ← v.record? ["override", "proper", "mean", "stddev"]
  return {
    overridden := ← r.required "override" Json.bool?
    proper := ← r.required "proper" Json.bool?
    mean := ← r.required "mean" Json.number?
    stddev := ← r.required "stddev" Json.number? }

/-- The members of a prior. -/
def PriorSettings.toJson (p : PriorSettings) : Json :=
  .obj [("override", .bool p.overridden), ("proper", .bool p.proper), ("mean", .ofFloat p.mean),
    ("stddev", .ofFloat p.stddev)]

/-- A quantile. -/
def QuantileSettings.ofJson? (v : Json) : Option QuantileSettings := do
  let r ← v.record? ["type", "quantile", "ignoreZeros"]
  return {
    scope := ← r.required "type" QuantileScope.ofJson?
    quantile := ← r.required "quantile" Json.number?
    ignoreZeros := ← r.withDefault "ignoreZeros" false Json.bool? }

/-- The members of a quantile. -/
def QuantileSettings.toJson (q : QuantileSettings) : Json :=
  .obj [("type", q.scope.toJson), ("quantile", .ofFloat q.quantile),
    ("ignoreZeros", .bool q.ignoreZeros)]

/-! ## Definitions -/

/-- The field names of a definition, in the order in which they are written. -/
def Metric.fieldNames : List String :=
  ["id", "name", "description", "owner", "datasource", "projects", "tags", "metricType", "events",
    "numerator", "denominator", "conditions", "aggregation", "windowSettings", "cappingSettings",
    "priorSettings", "quantileSettings", "winRisk", "loseRisk", "minPercentChange",
    "maxPercentChange", "minSampleSize", "regressionAdjustmentOverride",
    "regressionAdjustmentEnabled", "regressionAdjustmentDays", "managedBy", "dateCreated",
    "dateUpdated"]

/-- A metric definition. -/
def Metric.ofJson? (v : Json) : Option Metric := do
  let r ← v.record? fieldNames
  return {
    id := ← r.required "id" Json.string?
    name := ← r.required "name" Json.string?
    description := ← r.withDefault "description" "" Json.string?
    owner := ← r.withDefault "owner" "" Json.string?
    datasource := ← r.required "datasource" Json.string?
    projects := ← r.withDefault "projects" [] Json.strings?
    tags := ← r.withDefault "tags" [] Json.strings?
    kind := ← r.required "metricType" MetricKind.ofJson?
    events := ← r.required "events" Json.string?
    numerator := ← r.required "numerator" ColumnRef.ofJson?
    denominator := ← r.optional "denominator" ColumnRef.ofJson?
    conditions := ← r.withDefault "conditions" [] Condition.listOfJson?
    aggregation := ← r.optional "aggregation" Aggregation.ofJson?
    window := ← r.withDefault "windowSettings" {} WindowSettings.ofJson?
    capping := ← r.withDefault "cappingSettings" {} CappingSettings.ofJson?
    prior := ← r.withDefault "priorSettings" {} PriorSettings.ofJson?
    quantile := ← r.optional "quantileSettings" QuantileSettings.ofJson?
    winRisk := ← r.withDefault "winRisk" defaultWinRisk Json.number?
    loseRisk := ← r.withDefault "loseRisk" defaultLoseRisk Json.number?
    minPercentChange := ← r.withDefault "minPercentChange" defaultMinPercentChange Json.number?
    maxPercentChange := ← r.withDefault "maxPercentChange" defaultMaxPercentChange Json.number?
    minSampleSize := ← r.withDefault "minSampleSize" defaultMinSampleSize Json.number?
    regressionOverride := ← r.withDefault "regressionAdjustmentOverride" false Json.bool?
    regressionEnabled := ← r.withDefault "regressionAdjustmentEnabled" false Json.bool?
    regressionDays := ← r.withDefault "regressionAdjustmentDays" 0 (Json.natBelow? 32)
    managedBy := ← r.withDefault "managedBy" .ui ManagedBy.ofJson?
    dateCreated := ← r.optional "dateCreated" Time.Instant.ofJson?
    dateUpdated := ← r.optional "dateUpdated" Time.Instant.ofJson? }

/-- The members that come before the settings of a definition. -/
def Metric.headMembers (m : Metric) : List (String × Json) :=
  [("id", .str m.id), ("name", .str m.name), ("description", .str m.description),
    ("owner", .str m.owner), ("datasource", .str m.datasource),
    ("projects", .ofStrings m.projects), ("tags", .ofStrings m.tags),
    ("metricType", m.kind.toJson), ("events", .str m.events),
    ("numerator", m.numerator.toJson)] ++
  Json.present "denominator" ColumnRef.toJson m.denominator ++
  [("conditions", .arr (m.conditions.map Condition.toJson))] ++
  Json.present "aggregation" Aggregation.toJson m.aggregation

/-- The members of a definition. -/
def Metric.toJson (m : Metric) : Json :=
  .obj (m.headMembers ++
    [("windowSettings", m.window.toJson), ("cappingSettings", m.capping.toJson),
      ("priorSettings", m.prior.toJson)] ++
    Json.present "quantileSettings" QuantileSettings.toJson m.quantile ++
    [("winRisk", .ofFloat m.winRisk), ("loseRisk", .ofFloat m.loseRisk),
      ("minPercentChange", .ofFloat m.minPercentChange),
      ("maxPercentChange", .ofFloat m.maxPercentChange),
      ("minSampleSize", .ofFloat m.minSampleSize),
      ("regressionAdjustmentOverride", .bool m.regressionOverride),
      ("regressionAdjustmentEnabled", .bool m.regressionEnabled),
      ("regressionAdjustmentDays", .ofNat m.regressionDays),
      ("managedBy", m.managedBy.toJson)] ++
    Json.present "dateCreated" Time.Instant.toJson m.dateCreated ++
    Json.present "dateUpdated" Time.Instant.toJson m.dateUpdated)

end ExperimentQuery
