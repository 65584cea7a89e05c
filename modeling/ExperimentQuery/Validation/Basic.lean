import ExperimentQuery.FactTable
import ExperimentQuery.Metric.Basic
import ExperimentQuery.Plan.Aggregate

/-!
# Valid metrics

A metric must fit the fact tables that it refers to and the features that its owner is entitled
to. The checks stand in a fixed order, and the first one that fails is reported.

* `ValidationError`, `ValidationError.code`, `ValidationError.message`;
* `PremiumFeature`: what a licence may hold;
* `checkId`: the form of an id;
* **`Metric.check`**: all the checks of a definition.
-/

namespace ExperimentQuery

/-! ## Features -/

/-- A licensed feature, which some kinds of metric need. -/
inductive PremiumFeature where
  | quantileMetrics
  | retentionMetrics
  deriving Repr, DecidableEq

/-- What messages call a feature. -/
def PremiumFeature.title : PremiumFeature → String
  | .quantileMetrics => "Quantile metrics"
  | .retentionMetrics => "Retention metrics"

/-- The names that settings give features. -/
def PremiumFeature.names : List (String × PremiumFeature) :=
  [("quantile-metrics", .quantileMetrics), ("retention-metrics", .retentionMetrics)]

/-! ## Errors -/

/-- A side of a ratio. -/
inductive RatioSide where
  | numerator
  | denominator
  deriving Repr, DecidableEq

/-- The name of a side. -/
def RatioSide.name : RatioSide → String
  | .numerator => "numerator"
  | .denominator => "denominator"

/-- What may be done to a stored metric. -/
inductive StoreAction where
  | create
  | update
  | delete
  deriving Repr, DecidableEq

/-- The name of an action. -/
def StoreAction.name : StoreAction → String
  | .create => "create"
  | .update => "update"
  | .delete => "delete"

/-- Why a metric is refused. -/
inductive ValidationError where
  | unknownFactTable (side : RatioSide) (factTable : String)
  | unknownFilter (side : RatioSide) (filter : String)
  | incompleteAggregateFilter
  | aggregateFilterNotSupported (kind : MetricKind)
  | aggregateFilterColumnTypeInvalid (column : String)
  | invalidAggregateFilterExpression (part : String)
  | missingDenominator
  | crossDatasourceRatio (numerator denominator : String)
  | denominatorNotAllowed
  | premiumFeatureRequired (feature : PremiumFeature)
  | missingQuantileSettings
  | invalidRiskThresholds (winRisk loseRisk : Float)
  | invalidPercentChangeThresholds (low high : Float)
  | invalidIdFormat (id : String)
  | managedByApi (action : StoreAction)
  | readonlyField (field : String)
  deriving Repr

/-- A short code for a refusal, for programs. -/
def ValidationError.code : ValidationError → String
  | .unknownFactTable .. => "UnknownFactTable"
  | .unknownFilter .. => "UnknownFilter"
  | .incompleteAggregateFilter => "IncompleteAggregateFilter"
  | .aggregateFilterNotSupported .. => "AggregateFilterNotSupported"
  | .aggregateFilterColumnTypeInvalid .. => "AggregateFilterColumnTypeInvalid"
  | .invalidAggregateFilterExpression .. => "InvalidAggregateFilterExpression"
  | .missingDenominator => "MissingDenominator"
  | .crossDatasourceRatio .. => "CrossDatasourceRatio"
  | .denominatorNotAllowed => "DenominatorNotAllowed"
  | .premiumFeatureRequired .. => "PremiumFeatureRequired"
  | .missingQuantileSettings => "MissingQuantileSettings"
  | .invalidRiskThresholds .. => "InvalidRiskThresholds"
  | .invalidPercentChangeThresholds .. => "InvalidPercentChangeThresholds"
  | .invalidIdFormat .. => "InvalidIdFormat"
  | .managedByApi .. => "ManagedByApi"
  | .readonlyField .. => "ReadonlyField"

/-- What is said about a refusal. -/
def ValidationError.message : ValidationError → String
  | .unknownFactTable side id => "Could not find " ++ side.name ++ " fact table '" ++ id ++ "'"
  | .unknownFilter side id => "Invalid " ++ side.name ++ " filter id: " ++ id
  | .incompleteAggregateFilter =>
    "Must specify both \"aggregateFilter\" and \"aggregateFilterColumn\" or neither"
  | .aggregateFilterNotSupported kind =>
    "Aggregate filter is only supported for retention and proportion metrics, not " ++ kind.name
  | .aggregateFilterColumnTypeInvalid column =>
    "Aggregate filter column '" ++ column ++ "' must be a numeric column or \"$$count\""
  | .invalidAggregateFilterExpression part => "Invalid aggregate filter '" ++ part ++ "'"
  | .missingDenominator => "Denominator required for ratio metric"
  | .crossDatasourceRatio numerator denominator =>
    "Numerator and denominator must be in the same datasource ('" ++ numerator ++ "' vs '" ++
      denominator ++ "')"
  | .denominatorNotAllowed => "Denominator not allowed for non-ratio metric"
  | .premiumFeatureRequired feature => feature.title ++ " are a premium feature"
  | .missingQuantileSettings => "Must specify quantile settings for quantile metrics"
  | .invalidRiskThresholds winRisk loseRisk =>
    "riskThresholdDanger (" ++ Decimal.report loseRisk ++
      ") must be greater than riskThresholdSuccess (" ++ Decimal.report winRisk ++ ")"
  | .invalidPercentChangeThresholds low high =>
    "maxPercentChange (" ++ Decimal.report high ++ ") must be greater than minPercentChange (" ++
      Decimal.report low ++ ")"
  | .invalidIdFormat id =>
    "Metric ids must start with 'fact__' and contain only letters, numbers, underscores and " ++
      "dashes: '" ++ id ++ "'"
  | .managedByApi action => "Cannot " ++ action.name ++ " metric managed by API"
  | .readonlyField field => "Field '" ++ field ++ "' cannot be changed"

/-! ## Checks -/

/-- The check of one condition. -/
def require {ε : Type} (holds : Bool) (e : ε) : Except ε Unit := if holds then .ok () else .error e

/-- A value that must be there. -/
def requireSome {ε α : Type} (a : Option α) (e : ε) : Except ε α :=
  match a with
  | some a => .ok a
  | none => .error e

/-- The beginning of every metric id. -/
def metricIdStart : String := "fact__"

/-- Whether a character may stand in a metric id. -/
def isIdChar (c : Char) : Bool := c.isAlphanum || c == '_' || c == '-'

/-- Whether a text is a metric id: the common beginning with one character or more after it. -/
def isMetricId (id : String) : Bool :=
  match Text.stripWord? metricIdStart.toList id.toList with
  | some rest => rest ≠ [] && rest.all isIdChar
  | none => false

/-- The check of an id. -/
def checkId (id : String) : Except ValidationError Unit :=
  require (isMetricId id) (.invalidIdFormat id)

/-- The table of a column, which must be known. -/
def ColumnRef.requireTable (c : ColumnRef) (side : RatioSide) (tables : FactTables) :
    Except ValidationError FactTable :=
  requireSome (tables.find c.factTable) (.unknownFactTable side c.factTable)

/-- Every row filter of a column is known to its table. -/
def ColumnRef.checkFilters (c : ColumnRef) (side : RatioSide) (table : FactTable) :
    Except ValidationError Unit :=
  match c.filters.find? fun id => !table.hasFilter id with
  | some id => .error (.unknownFilter side id)
  | none => .ok ()

/-- Whether an aggregate filter may compare this column. -/
def FactTable.isNumeric (t : FactTable) (column : String) : Bool :=
  column == rowCountColumn || t.columnDatatype? column == some .number

/-- The parts of an aggregate filter, if one is given: both halves are there, the kind of metric
has them, the column is numeric, and the comparisons can be read. -/
def ColumnRef.checkAggregateFilter (c : ColumnRef) (kind : MetricKind) (table : FactTable) :
    Except ValidationError Unit := do
  if c.hasAggregateFilter then
    let filter := c.aggregateFilter.getD ""
    let column := c.aggregateFilterColumn.getD ""
    require (isGiven c.aggregateFilter == isGiven c.aggregateFilterColumn)
      .incompleteAggregateFilter
    require kind.isBinomial (.aggregateFilterNotSupported kind)
    require (table.isNumeric column) (.aggregateFilterColumnTypeInvalid column)
    match parseComparisons filter with
    | .ok _ => return ()
    | .error e => throw (.invalidAggregateFilterExpression e.part)

namespace Metric

/-- A ratio has a denominator that fits the numerator's table; other kinds have none. -/
def checkDenominator (m : Metric) (table : FactTable) (tables : FactTables) :
    Except ValidationError Unit := do
  if m.kind = .ratio then
    let d ← requireSome m.denominator .missingDenominator
    if d.factTable ≠ m.numerator.factTable then
      let other ← d.requireTable .denominator tables
      require (other.datasource == table.datasource)
        (.crossDatasourceRatio table.datasource other.datasource)
      d.checkFilters .denominator other
  else
    require (!isGiven (m.denominator.map (·.factTable))) .denominatorNotAllowed

/-- The features that the kind of metric needs, and the settings of a quantile. -/
def checkKind (m : Metric) (features : List PremiumFeature) : Except ValidationError Unit := do
  if m.kind = .quantile then
    require (features.contains .quantileMetrics) (.premiumFeatureRequired .quantileMetrics)
    require m.quantile.isSome .missingQuantileSettings
  if m.kind = .retention then
    require (features.contains .retentionMetrics) (.premiumFeatureRequired .retentionMetrics)

/-- The thresholds are in order. -/
def checkThresholds (m : Metric) : Except ValidationError Unit := do
  require (!(m.loseRisk < m.winRisk)) (.invalidRiskThresholds m.winRisk m.loseRisk)
  require (!(m.maxPercentChange <= m.minPercentChange))
    (.invalidPercentChangeThresholds m.minPercentChange m.maxPercentChange)

/-- **The checks of a definition**, the first violation being reported. -/
def check (m : Metric) (tables : FactTables) (features : List PremiumFeature) :
    Except ValidationError Unit := do
  let table ← m.numerator.requireTable .numerator tables
  m.numerator.checkFilters .numerator table
  m.numerator.checkAggregateFilter m.kind table
  m.checkDenominator table tables
  m.checkKind features
  m.checkThresholds

end Metric

end ExperimentQuery
