import ExperimentQuery.Text.Basic
import ExperimentQuery.Time.Instant

/-!
# Metrics

A metric says which events count, what value each event contributes, how the values of a user
collapse into one number, and which time around the exposure of the user is eligible.

* `MetricKind`: the statistical shape, `MetricKind.isBinomial` for the ones that are 0 or 1;
* `ColumnRef`, `Condition`: where values come from and which events match;
* `WindowSettings`, `CappingSettings`, `PriorSettings`, `QuantileSettings`: settings in parts;
* **`Metric`**: a complete definition, `Metric.eventNames` and `Metric.effectiveAggregation`.
-/

namespace ExperimentQuery

/-- The column that stands for one per matching row. -/
def rowCountColumn : String := "$$count"

/-- The column that stands for one per distinct user. -/
def distinctUsersColumn : String := "$$distinctUsers"

/-! ## Kinds -/

/-- The statistical shape of a metric. -/
inductive MetricKind where
  | count
  | proportion
  | mean
  | ratio
  | quantile
  | retention
  deriving Repr, DecidableEq

/-- Binomial metrics are 0 or 1 for each user and are never capped. -/
def MetricKind.isBinomial : MetricKind → Bool
  | .proportion | .retention => true
  | _ => false

/-- The name of a kind. -/
def MetricKind.name : MetricKind → String
  | .count => "count"
  | .proportion => "proportion"
  | .mean => "mean"
  | .ratio => "ratio"
  | .quantile => "quantile"
  | .retention => "retention"

/-! ## Columns and conditions -/

/-- A column of a fact table with row filters and an optional filter on each user's aggregate. -/
structure ColumnRef where
  factTable : String
  column : Option String := none
  filters : List String := []
  aggregateFilter : Option String := none
  aggregateFilterColumn : Option String := none
  deriving Repr, DecidableEq

/-- Whether a text is given and not empty. -/
def isGiven : Option String → Bool
  | none => false
  | some s => s ≠ ""

/-- The value column; the counting columns and the empty name stand for none. -/
def ColumnRef.valueColumn (c : ColumnRef) : Option String :=
  c.column.filter fun name => name ≠ "" && name ≠ rowCountColumn && name ≠ distinctUsersColumn

/-- Whether either half of the aggregate filter is given. -/
def ColumnRef.hasAggregateFilter (c : ColumnRef) : Bool :=
  isGiven c.aggregateFilter || isGiven c.aggregateFilterColumn

/-- The operator of a condition. -/
inductive ConditionOp where
  | eq
  | ne
  | gt
  | ge
  | lt
  | le
  | matching
  | notMatching
  deriving Repr, DecidableEq

/-- The sign of an operator. -/
def ConditionOp.sign : ConditionOp → String
  | .eq => "="
  | .ne => "!="
  | .gt => ">"
  | .ge => ">="
  | .lt => "<"
  | .le => "<="
  | .matching => "~"
  | .notMatching => "!~"

/-- A test of one property of an event; the column is a path with dots. -/
structure Condition where
  column : String
  op : ConditionOp
  value : String
  deriving Repr, DecidableEq

/-- How the values of a user collapse into one number. -/
inductive Aggregation where
  | sum
  | count
  | countDistinct
  | min
  | max
  | avg
  | median
  deriving Repr, DecidableEq

/-! ## Settings -/

/-- The unit of a length of time. -/
inductive TimeUnit where
  | minutes
  | hours
  | days
  | weeks
  deriving Repr, DecidableEq

/-- A length in this unit, in hours. -/
def TimeUnit.toHours (unit : TimeUnit) (value : Float) : Float :=
  match unit with
  | .minutes => value / 60.0
  | .hours => value
  | .days => value * 24.0
  | .weeks => value * 24.0 * 7.0

/-- What a window is anchored at: nothing, the exposure, or the end of the experiment. -/
inductive WindowKind where
  | none
  | conversion
  | lookback
  deriving Repr, DecidableEq

/-- The length of a conversion window for which none is given. -/
def defaultWindowHours : Float := 72.0

/-- The time around exposure in which events count. -/
structure WindowSettings where
  kind : WindowKind := .none
  delayValue : Float := 0.0
  delayUnit : TimeUnit := .hours
  windowValue : Float := defaultWindowHours
  windowUnit : TimeUnit := .hours
  deriving Repr

/-- The delay in hours. -/
def WindowSettings.delayHours (w : WindowSettings) : Float := w.delayUnit.toHours w.delayValue

/-- The length of the window in hours. -/
def WindowSettings.windowHours (w : WindowSettings) : Float := w.windowUnit.toHours w.windowValue

/-- Whether values are capped. -/
inductive CappingKind where
  | none
  | absolute
  deriving Repr, DecidableEq

/-- The ceiling on the value of a user. -/
structure CappingSettings where
  kind : CappingKind := .none
  value : Float := 0.0
  deriving Repr

/-- The standard deviation of a proper prior for which none is given. -/
def defaultPriorStddev : Float := 0.3

/-- The prior distribution of the effect. -/
structure PriorSettings where
  overridden : Bool := false
  proper : Bool := false
  mean : Float := 0.0
  stddev : Float := defaultPriorStddev
  deriving Repr

/-- What a quantile is taken over. -/
inductive QuantileScope where
  | event
  | unit
  deriving Repr, DecidableEq

/-- The quantile of a quantile metric. -/
structure QuantileSettings where
  scope : QuantileScope
  quantile : Float
  ignoreZeros : Bool := false
  deriving Repr

/-- Who owns a metric document. -/
inductive ManagedBy where
  | ui
  | api
  deriving Repr, DecidableEq

/-! ## Definitions -/

/-- The risk at which a metric with no threshold of its own counts as won. -/
def defaultWinRisk : Float := 0.0025

/-- The risk at which a metric with no threshold of its own counts as lost. -/
def defaultLoseRisk : Float := 0.0125

/-- The least change that counts when none is given. -/
def defaultMinPercentChange : Float := 0.005

/-- The greatest change that is believed when none is given. -/
def defaultMaxPercentChange : Float := 0.5

/-- The least sample when none is given. -/
def defaultMinSampleSize : Float := 150.0

/-- A complete metric definition. -/
structure Metric where
  id : String
  name : String
  description : String := ""
  owner : String := ""
  datasource : String := ""
  projects : List String := []
  tags : List String := []
  kind : MetricKind
  /-- The names of the events that count, joined with `OR`. -/
  events : String
  numerator : ColumnRef
  denominator : Option ColumnRef := none
  conditions : List Condition := []
  aggregation : Option Aggregation := none
  window : WindowSettings := {}
  capping : CappingSettings := {}
  prior : PriorSettings := {}
  quantile : Option QuantileSettings := none
  winRisk : Float := defaultWinRisk
  loseRisk : Float := defaultLoseRisk
  minPercentChange : Float := defaultMinPercentChange
  maxPercentChange : Float := defaultMaxPercentChange
  minSampleSize : Float := defaultMinSampleSize
  regressionOverride : Bool := false
  regressionEnabled : Bool := false
  regressionDays : Nat := 0
  managedBy : ManagedBy := .ui
  dateCreated : Option Time.Instant := none
  dateUpdated : Option Time.Instant := none
  deriving Repr

/-- The names in a list joined with `OR`, trimmed, the empty ones left out. -/
def splitEventNames (events : String) : List String :=
  ((Text.splitOnWord " OR ".toList events.toList).map Text.trimChars).filter (· ≠ [])
    |>.map String.ofList

namespace Metric

/-- The names of the events that count. -/
def eventNames (m : Metric) : List String := splitEventNames m.events

/-- The aggregation that applies: the one given, or counting for a count of rows, or the sum. -/
def effectiveAggregation (m : Metric) : Aggregation :=
  match m.aggregation with
  | some a => a
  | none =>
    if m.kind = .count ∧ m.numerator.valueColumn = none then .count else .sum

end Metric

end ExperimentQuery
