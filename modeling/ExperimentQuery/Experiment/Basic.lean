import ExperimentQuery.Metric.Basic

/-!
# Experiments

What a query is compiled from: the settings of an experiment with overrides of metric windows, a
dimension that users are split by, a segment that events are limited to, and the parameters of a
query for the values of one metric.

* `EventNaming`, `EventNaming.withDefaults`: how a datasource names its experiment events;
* `MetricOverride`, `MetricOverride.apply`: a window of one metric replaced in part;
* **`ExperimentSettings`**, `withEvents`, `applyOverrides`;
* `Dimension`, `Segment`, `MetricValueParams`.
-/

namespace ExperimentQuery

/-- The exposure event of a datasource that names none. -/
def defaultExposureEvent : String := "$experiment_started"

/-- The property with the experiment's id of a datasource that names none. -/
def defaultExperimentIdProperty : String := "Experiment name"

/-- The property with the variation of a datasource that names none. -/
def defaultVariationIdProperty : String := "Variant name"

/-- How a datasource names its experiment events and their properties. -/
structure EventNaming where
  experimentEvent : String := defaultExposureEvent
  experimentIdProperty : String := defaultExperimentIdProperty
  variationIdProperty : String := defaultVariationIdProperty
  extraUserIdProperty : Option String := none
  deriving Repr, DecidableEq

/-- A text, or another one when it is empty. -/
def orElseText (s fallback : String) : String := if s = "" then fallback else s

/-- The naming with its empty parts filled from the defaults. -/
def EventNaming.withDefaults (n : EventNaming) : EventNaming :=
  { experimentEvent := orElseText n.experimentEvent defaultExposureEvent
    experimentIdProperty := orElseText n.experimentIdProperty defaultExperimentIdProperty
    variationIdProperty := orElseText n.variationIdProperty defaultVariationIdProperty
    extraUserIdProperty := n.extraUserIdProperty.filter (· ≠ "") }

/-- The parts of a metric's window that an experiment replaces; lengths are in hours. -/
structure MetricOverride where
  id : String := ""
  windowType : Option WindowKind := none
  windowHours : Option Float := none
  delayHours : Option Float := none
  deriving Repr

/-- A window with the overridden parts replaced. -/
def MetricOverride.applyToWindow (o : MetricOverride) (w : WindowSettings) : WindowSettings :=
  { kind := o.windowType.getD w.kind
    delayValue := o.delayHours.getD w.delayValue
    delayUnit := if o.delayHours.isSome then .hours else w.delayUnit
    windowValue := o.windowHours.getD w.windowValue
    windowUnit := if o.windowHours.isSome then .hours else w.windowUnit }

/-- A metric with its window overridden. -/
def MetricOverride.apply (o : MetricOverride) (m : Metric) : Metric :=
  { m with window := o.applyToWindow m.window }

/-- The settings of an experiment's analysis. -/
structure ExperimentSettings where
  experimentId : String
  start : Time.Instant
  stop : Time.Instant
  exposureEvent : String := defaultExposureEvent
  experimentIdProperty : String := defaultExperimentIdProperty
  variationIdProperty : String := defaultVariationIdProperty
  extraUserIdProperty : Option String := none
  overrides : List MetricOverride := []
  deriving Repr

namespace ExperimentSettings

/-- The settings with the event naming of a datasource. -/
def withEvents (s : ExperimentSettings) (naming : EventNaming) : ExperimentSettings :=
  let n := naming.withDefaults
  { s with
    exposureEvent := n.experimentEvent
    experimentIdProperty := n.experimentIdProperty
    variationIdProperty := n.variationIdProperty
    extraUserIdProperty := n.extraUserIdProperty }

/-- A metric with the overrides of its id applied in order. -/
def applyOverrides (s : ExperimentSettings) (m : Metric) : Metric :=
  (s.overrides.filter (·.id = m.id)).foldl (fun m o => o.apply m) m

end ExperimentSettings

/-- A dimension: a property path, in which placeholders may stand, read at first exposure. -/
structure Dimension where
  id : String := ""
  name : String := ""
  expression : String
  deriving Repr, DecidableEq

/-- A named set of conditions on the events that are considered. -/
structure Segment where
  name : String
  conditions : List Condition := []
  deriving Repr, DecidableEq

/-- The parameters of a query for the values of one metric. -/
structure MetricValueParams where
  name : String
  metric : Metric
  start : Time.Instant
  stop : Time.Instant
  segment : Option Segment := none
  includeByDate : Bool := false
  extraUserIdProperty : Option String := none
  deriving Repr

end ExperimentQuery
