import ExperimentQuery.Experiment.Dimension
import ExperimentQuery.Plan.Aggregate
import ExperimentQuery.Plan.Value

/-!
# Plans

A plan says in full what a query computes; scripts are rendered from it and events are run through
it. Every definition has a plan.

* `MetricStep`, `MetricStep.ofMetric`, **`MetricStep.aggregate`**;
* **`ExperimentPlan`**, `ExperimentPlan.build`;
* **`MetricValuePlan`**, `MetricValuePlan.build`.
-/

namespace ExperimentQuery

/-! ## Metrics -/

/-- One metric, ready to be evaluated for each user. -/
structure MetricStep where
  id : String
  name : String
  kind : MetricKind
  predicate : EventPredicate
  value : ValueExpr
  window : List WindowBound
  delayMillis : Int
  aggregation : Aggregation
  cap : Option Float
  aggregateFilter : Option AggregateFilter
  deriving Repr

/-- The aggregate filter that a metric uses: a binomial metric that has both halves. -/
def Metric.aggregateFilter? (m : Metric) : Option AggregateFilter :=
  if m.kind.isBinomial then
    match m.numerator.aggregateFilterColumn, m.numerator.aggregateFilter with
    | some column, some filter => AggregateFilter.ofParts? column filter
    | _, _ => none
  else none

/-- What an event contributes to a metric: the column of its aggregate filter, or its own. -/
def Metric.valueExpr (m : Metric) : ValueExpr :=
  match m.aggregateFilter? with
  | some ⟨.column column, _⟩ => .ofColumn (some column)
  | _ => .ofColumn m.numerator.valueColumn

namespace MetricStep

/-- The step of a metric in an experiment that ends at `stop`. -/
def ofMetric (m : Metric) (stop : Time.Instant) : MetricStep :=
  { id := m.id
    name := m.name
    kind := m.kind
    predicate := .ofConditions m.eventNames m.conditions
    value := m.valueExpr
    window := m.window.bounds stop
    delayMillis := m.window.delayMillis
    aggregation := m.effectiveAggregation
    cap := m.capping.ceiling?
    aggregateFilter := m.aggregateFilter? }

/-- The step without its window, for queries that have no reference instant. -/
def withoutWindow (s : MetricStep) : MetricStep := { s with window := [], delayMillis := 0 }

/-- Whether the window opens before the reference instant. -/
def isEarlyStart (s : MetricStep) : Bool := s.delayMillis < 0

/-- Whether an event at `time` lies in the window of a user with this reference instant. -/
def inWindow (s : MetricStep) (time start : Int) : Bool := within s.window time start

/-- Whether the values of a user amount to a conversion. -/
def converted (s : MetricStep) (values : List Sample) : Bool :=
  !values.isEmpty && s.aggregateFilter.all (·.passes values)

/-- **The number that the values of a user collapse into.** -/
def aggregate (s : MetricStep) (values : List Sample) : Float :=
  if s.kind.isBinomial then (if s.converted values then 1.0 else 0.0)
  else if values.isEmpty then 0.0
  else applyCap false s.cap (s.aggregation.apply values)

/-- What an event adds to the values of a user; one without a number adds zero. -/
def contribution (s : MetricStep) (e : Event) : Sample := (s.value.eval e).getD (.ofFloat 0.0)

end MetricStep

/-! ## Experiments -/

/-- The event after which metrics are captured. -/
structure ActivationStep where
  name : String
  predicate : EventPredicate
  deriving Repr, DecidableEq

/-- The activation by a metric's events. -/
def ActivationStep.ofMetric (m : Metric) : ActivationStep :=
  ⟨m.name, .ofConditions m.eventNames m.conditions⟩

/-- What an experiment query computes. -/
structure ExperimentPlan where
  experimentId : String
  start : Time.Instant
  stop : Time.Instant
  /-- The names of the events to read, in order and distinct. -/
  selectors : List String
  exposure : ExposurePredicate
  variationPath : List String
  userKey : Option String
  dimension : Option DimensionExpr
  activation : Option ActivationStep
  metrics : List MetricStep
  deriving Repr

/-- The exposure of an experiment. -/
def ExperimentSettings.exposure (s : ExperimentSettings) : ExposurePredicate :=
  { eventName := s.exposureEvent
    experimentIdPath := propertyPath s.experimentIdProperty
    experimentId := s.experimentId
    start := s.start.millis
    stop := s.stop.millis }

/-- What the placeholders of a dimension stand for in an experiment. -/
def ExperimentSettings.placeholderValues (s : ExperimentSettings) : PlaceholderValues :=
  ⟨s.start, s.stop, s.experimentId⟩

namespace ExperimentPlan

/-- The plan of an experiment with its metrics, an activation and a dimension. -/
def build (s : ExperimentSettings) (metrics : List Metric) (activation : Option Metric)
    (dimension : Option Dimension) : ExperimentPlan :=
  let metrics := metrics.map s.applyOverrides
  let activation := activation.map s.applyOverrides
  { experimentId := s.experimentId
    start := s.start
    stop := s.stop
    selectors := Ordered.keys
      (s.exposureEvent :: (metrics ++ activation.toList).flatMap Metric.eventNames)
    exposure := s.exposure
    variationPath := propertyPath s.variationIdProperty
    userKey := s.extraUserIdProperty
    dimension := dimension.map fun d => ⟨propertyPath (d.resolve s.placeholderValues)⟩
    activation := activation.map ActivationStep.ofMetric
    metrics := metrics.map fun m => .ofMetric m s.stop }

/-- Whether the window of some metric opens before the reference instant. -/
def hasEarlyStart (p : ExperimentPlan) : Bool := p.metrics.any (·.isEarlyStart)

/-- Whether an event activates a user. -/
def activates (p : ExperimentPlan) (e : Event) : Bool := p.activation.any (·.predicate.accepts e)

end ExperimentPlan

/-! ## Values of one metric -/

/-- What a query for the values of one metric computes. -/
structure MetricValuePlan where
  name : String
  start : Time.Instant
  stop : Time.Instant
  selectors : List String
  segment : Option SegmentPredicate
  metric : MetricStep
  includeByDate : Bool
  userKey : Option String
  deriving Repr

/-- The predicate of a segment. -/
def Segment.predicate (s : Segment) : SegmentPredicate :=
  ⟨s.name, s.conditions.map ConditionTest.ofCondition⟩

/-- The plan of a value query. -/
def MetricValuePlan.build (p : MetricValueParams) : MetricValuePlan :=
  { name := p.name
    start := p.start
    stop := p.stop
    selectors := Ordered.keys p.metric.eventNames
    segment := p.segment.map Segment.predicate
    metric := (MetricStep.ofMetric p.metric p.stop).withoutWindow
    includeByDate := p.includeByDate
    userKey := p.extraUserIdProperty }

end ExperimentQuery
