import ExperimentQuery.Metric.Codec

/-!
# Public view of a metric

What the callers of the public interface see of a metric: the same fields with the kinds spelled
out, the regression settings together, and dates as text.

* `Metric.apiRegression`: the regression settings, each part only where it applies;
* **`Metric.toApi`**: the view.
-/

namespace ExperimentQuery

/-- The spelled-out name of a window kind. -/
def WindowKind.apiName : WindowKind → String
  | .none => "none"
  | .conversion => "conversion"
  | .lookback => "lookback"

/-- The spelled-out name of a capping kind. -/
def CappingKind.apiName : CappingKind → String
  | .none => "none"
  | .absolute => "absolute"

namespace Metric

/-- Whether regression adjustment is overridden; if so whether it is enabled, and if that too its
number of days. -/
def apiRegression (m : Metric) : Json :=
  .obj (("override", .bool m.regressionOverride) ::
    (if m.regressionOverride then [("enabled", Json.bool m.regressionEnabled)] else []) ++
    (if m.regressionOverride && m.regressionEnabled then [("days", Json.ofNat m.regressionDays)]
      else []))

/-- The window with its kind spelled out. -/
def apiWindow (m : Metric) : Json :=
  .obj [("type", .str m.window.kind.apiName), ("delayValue", .ofFloat m.window.delayValue),
    ("delayUnit", m.window.delayUnit.toJson), ("windowValue", .ofFloat m.window.windowValue),
    ("windowUnit", m.window.windowUnit.toJson)]

/-- The cap with its kind spelled out. -/
def apiCapping (m : Metric) : Json :=
  .obj [("type", .str m.capping.kind.apiName), ("value", .ofFloat m.capping.value)]

/-- A date with milliseconds, the empty text for none. -/
def apiDate (t : Option Time.Instant) : Json := .str ((t.map (·.rfc3339Millis)).getD "")

/-- **The public view of a metric.** -/
def toApi (m : Metric) : Json :=
  .obj (m.headMembers ++
    [("windowSettings", m.apiWindow), ("cappingSettings", m.apiCapping),
      ("priorSettings", m.prior.toJson)] ++
    Json.present "quantileSettings" QuantileSettings.toJson m.quantile ++
    [("riskThresholdDanger", .ofFloat m.loseRisk), ("riskThresholdSuccess", .ofFloat m.winRisk),
      ("minPercentChange", .ofFloat m.minPercentChange),
      ("maxPercentChange", .ofFloat m.maxPercentChange),
      ("minSampleSize", .ofFloat m.minSampleSize),
      ("regressionAdjustmentSettings", m.apiRegression), ("managedBy", m.managedBy.toJson),
      ("dateCreated", apiDate m.dateCreated), ("dateUpdated", apiDate m.dateUpdated)])

end Metric

end ExperimentQuery
