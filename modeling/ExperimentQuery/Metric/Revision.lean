import ExperimentQuery.Metric.Codec

/-!
# Stored revisions of metric documents

Earlier documents carry flat fields in place of the window and capping settings, and window
settings whose delay is in `delayHours`. A revision is any document that was ever written; it
always upgrades to a current definition, what it lacks being taken from the flat fields or from
the defaults.

* `WindowRevision`, `MetricRevision`: the documents as stored;
* `MetricRevision.ofJson?`, `MetricRevision.toJson`: reading and writing;
* **`MetricRevision.upgrade`**: the current definition of a document.
-/

namespace ExperimentQuery

/-- Window settings as stored; the delay is in hours or a value with a unit. -/
structure WindowRevision where
  kind : WindowKind
  delayHours : Option Float
  delayValue : Option Float
  delayUnit : Option TimeUnit
  windowValue : Option Float
  windowUnit : Option TimeUnit
  deriving Repr

/-- A metric document as stored. -/
structure MetricRevision where
  id : String
  name : String
  description : String
  owner : String
  datasource : String
  projects : List String
  tags : List String
  kind : MetricKind
  events : String
  numerator : ColumnRef
  denominator : Option ColumnRef
  conditions : List Condition
  aggregation : Option Aggregation
  window : Option WindowRevision
  capping : Option CappingSettings
  prior : Option PriorSettings
  quantile : Option QuantileSettings
  hasConversionWindow : Option Bool
  conversionWindowValue : Option Float
  conversionWindowUnit : Option TimeUnit
  conversionDelayHours : Option Float
  cappingKind : Option CappingKind
  capValue : Option Float
  winRisk : Option Float
  loseRisk : Option Float
  minPercentChange : Option Float
  maxPercentChange : Option Float
  minSampleSize : Option Float
  regressionOverride : Bool
  regressionEnabled : Bool
  regressionDays : Nat
  managedBy : ManagedBy
  dateCreated : Option Time.Instant
  dateUpdated : Option Time.Instant
  deriving Repr

/-! ## Documents -/

/-- Stored window settings. -/
def WindowRevision.ofJson? (v : Json) : Option WindowRevision := do
  let r ← v.record? ["type", "delayHours", "delayValue", "delayUnit", "windowValue", "windowUnit"]
  return {
    kind := ← r.withDefault "type" .none WindowKind.ofJson?
    delayHours := ← r.optional "delayHours" Json.number?
    delayValue := ← r.optional "delayValue" Json.number?
    delayUnit := ← r.optional "delayUnit" TimeUnit.ofJson?
    windowValue := ← r.optional "windowValue" Json.number?
    windowUnit := ← r.optional "windowUnit" TimeUnit.ofJson? }

/-- The members of stored window settings. -/
def WindowRevision.toJson (w : WindowRevision) : Json :=
  .obj [("type", w.kind.toJson), ("delayHours", .ofOption .ofFloat w.delayHours),
    ("delayValue", .ofOption .ofFloat w.delayValue),
    ("delayUnit", .ofOption TimeUnit.toJson w.delayUnit),
    ("windowValue", .ofOption .ofFloat w.windowValue),
    ("windowUnit", .ofOption TimeUnit.toJson w.windowUnit)]

/-- The field names of a stored document. -/
def MetricRevision.fieldNames : List String :=
  ["id", "name", "description", "owner", "datasource", "projects", "tags", "metricType", "events",
    "numerator", "denominator", "conditions", "aggregation", "windowSettings", "cappingSettings",
    "priorSettings", "quantileSettings", "hasConversionWindow", "conversionWindowValue",
    "conversionWindowUnit", "conversionDelayHours", "capping", "capValue", "winRisk", "loseRisk",
    "minPercentChange", "maxPercentChange", "minSampleSize", "regressionAdjustmentOverride",
    "regressionAdjustmentEnabled", "regressionAdjustmentDays", "managedBy", "dateCreated",
    "dateUpdated"]

/-- A stored document. -/
def MetricRevision.ofJson? (v : Json) : Option MetricRevision := do
  let r ← v.record? fieldNames
  return {
    id := ← r.required "id" Json.string?
    name := ← r.required "name" Json.string?
    description := ← r.withDefault "description" "" Json.string?
    owner := ← r.withDefault "owner" "" Json.string?
    datasource := ← r.required "datasource" Json.string?
    projects := ← r.withDefault "projects" [] Json.strings?
    tags := ← r.withDefault "tags" [] Json.strings?
    kind := ← r.required "metricType" MetricKind.ofJson?
    events := ← r.required "events" Json.string?
    numerator := ← r.required "numerator" ColumnRef.ofJson?
    denominator := ← r.optional "denominator" ColumnRef.ofJson?
    conditions := ← r.withDefault "conditions" [] Condition.listOfJson?
    aggregation := ← r.optional "aggregation" Aggregation.ofJson?
    window := ← r.optional "windowSettings" WindowRevision.ofJson?
    capping := ← r.optional "cappingSettings" CappingSettings.ofJson?
    prior := ← r.optional "priorSettings" PriorSettings.ofJson?
    quantile := ← r.optional "quantileSettings" QuantileSettings.ofJson?
    hasConversionWindow := ← r.optional "hasConversionWindow" Json.bool?
    conversionWindowValue := ← r.optional "conversionWindowValue" Json.number?
    conversionWindowUnit := ← r.optional "conversionWindowUnit" TimeUnit.ofJson?
    conversionDelayHours := ← r.optional "conversionDelayHours" Json.number?
    cappingKind := ← r.optional "capping" CappingKind.ofJson?
    capValue := ← r.optional "capValue" Json.number?
    winRisk := ← r.optional "winRisk" Json.number?
    loseRisk := ← r.optional "loseRisk" Json.number?
    minPercentChange := ← r.optional "minPercentChange" Json.number?
    maxPercentChange := ← r.optional "maxPercentChange" Json.number?
    minSampleSize := ← r.optional "minSampleSize" Json.number?
    regressionOverride := ← r.withDefault "regressionAdjustmentOverride" false Json.bool?
    regressionEnabled := ← r.withDefault "regressionAdjustmentEnabled" false Json.bool?
    regressionDays := ← r.withDefault "regressionAdjustmentDays" 0 (Json.natBelow? 32)
    managedBy := ← r.withDefault "managedBy" .ui ManagedBy.ofJson?
    dateCreated := ← r.optional "dateCreated" Time.Instant.ofJson?
    dateUpdated := ← r.optional "dateUpdated" Time.Instant.ofJson? }

/-- The members of a stored document. -/
def MetricRevision.toJson (d : MetricRevision) : Json :=
  .obj [("id", .str d.id), ("name", .str d.name), ("description", .str d.description),
    ("owner", .str d.owner), ("datasource", .str d.datasource),
    ("projects", .ofStrings d.projects), ("tags", .ofStrings d.tags),
    ("metricType", d.kind.toJson), ("events", .str d.events),
    ("numerator", d.numerator.toJson),
    ("denominator", .ofOption ColumnRef.toJson d.denominator),
    ("conditions", .arr (d.conditions.map Condition.toJson)),
    ("aggregation", .ofOption Aggregation.toJson d.aggregation),
    ("windowSettings", .ofOption WindowRevision.toJson d.window),
    ("cappingSettings", .ofOption CappingSettings.toJson d.capping),
    ("priorSettings", .ofOption PriorSettings.toJson d.prior),
    ("quantileSettings", .ofOption QuantileSettings.toJson d.quantile),
    ("hasConversionWindow", .ofOption .bool d.hasConversionWindow),
    ("conversionWindowValue", .ofOption .ofFloat d.conversionWindowValue),
    ("conversionWindowUnit", .ofOption TimeUnit.toJson d.conversionWindowUnit),
    ("conversionDelayHours", .ofOption .ofFloat d.conversionDelayHours),
    ("capping", .ofOption CappingKind.toJson d.cappingKind),
    ("capValue", .ofOption .ofFloat d.capValue),
    ("winRisk", .ofOption .ofFloat d.winRisk),
    ("loseRisk", .ofOption .ofFloat d.loseRisk),
    ("minPercentChange", .ofOption .ofFloat d.minPercentChange),
    ("maxPercentChange", .ofOption .ofFloat d.maxPercentChange),
    ("minSampleSize", .ofOption .ofFloat d.minSampleSize),
    ("regressionAdjustmentOverride", .bool d.regressionOverride),
    ("regressionAdjustmentEnabled", .bool d.regressionEnabled),
    ("regressionAdjustmentDays", .ofNat d.regressionDays),
    ("managedBy", d.managedBy.toJson),
    ("dateCreated", .ofOption Time.Instant.toJson d.dateCreated),
    ("dateUpdated", .ofOption Time.Instant.toJson d.dateUpdated)]

/-! ## Upgrading -/

/-- The current form of stored window settings. A delay without a value is its number of hours. -/
def WindowRevision.upgrade (w : WindowRevision) : WindowSettings :=
  { kind := w.kind
    delayValue := w.delayValue.getD (w.delayHours.getD 0.0)
    delayUnit := w.delayUnit.getD .hours
    windowValue := w.windowValue.getD defaultWindowHours
    windowUnit := w.windowUnit.getD .hours }

/-- The window of a document: its settings, or what its flat fields say. -/
def MetricRevision.upgradeWindow (d : MetricRevision) : WindowSettings :=
  match d.window with
  | some w => w.upgrade
  | none =>
    { kind := if d.hasConversionWindow = some true then .conversion else .none
      delayValue := d.conversionDelayHours.getD 0.0
      delayUnit := .hours
      windowValue := (d.conversionWindowValue.filter (· != 0.0)).getD defaultWindowHours
      windowUnit := d.conversionWindowUnit.getD .hours }

/-- The cap of a document: its settings, or what its flat fields say. -/
def MetricRevision.upgradeCapping (d : MetricRevision) : CappingSettings :=
  d.capping.getD { kind := d.cappingKind.getD .none, value := d.capValue.getD 0.0 }

/-- **The current definition of a stored document.** -/
def MetricRevision.upgrade (d : MetricRevision) : Metric :=
  { id := d.id
    name := d.name
    description := d.description
    owner := d.owner
    datasource := d.datasource
    projects := d.projects
    tags := d.tags
    kind := d.kind
    events := d.events
    numerator := d.numerator
    denominator := d.denominator
    conditions := d.conditions
    aggregation := d.aggregation
    window := d.upgradeWindow
    capping := d.upgradeCapping
    prior := d.prior.getD {}
    quantile := d.quantile
    winRisk := d.winRisk.getD defaultWinRisk
    loseRisk := d.loseRisk.getD defaultLoseRisk
    minPercentChange := d.minPercentChange.getD defaultMinPercentChange
    maxPercentChange := d.maxPercentChange.getD defaultMaxPercentChange
    minSampleSize := d.minSampleSize.getD defaultMinSampleSize
    regressionOverride := d.regressionOverride
    regressionEnabled := d.regressionEnabled
    regressionDays := d.regressionDays
    managedBy := d.managedBy
    dateCreated := d.dateCreated
    dateUpdated := d.dateUpdated }

/-- The current definition of a document of any revision. -/
def Metric.ofStored? (v : Json) : Option Metric := (MetricRevision.ofJson? v).map (·.upgrade)

end ExperimentQuery
