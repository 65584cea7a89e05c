import ExperimentQuery.Codec.Sha256
import ExperimentQuery.Script.Experiment
import ExperimentQuery.Script.MetricValue

/-!
# Compiled queries

A query is compiled from definitions by way of its plan. Equal definitions give equal scripts, and
a script is known by its fingerprint.

* `Query`, `Query.fingerprint`;
* **`compileExperiment`**, **`compileMetricValue`**.
-/

namespace ExperimentQuery

/-- A compiled query. -/
structure Query where
  script : String
  deriving Repr, DecidableEq

/-- The hash of a script, in hexadecimal digits. -/
def Query.fingerprint (q : Query) : String := Sha256.hexDigest (.ofString q.script)

/-- The query for the results of an experiment. -/
def compileExperiment (s : ExperimentSettings) (metrics : List Metric) (activation : Option Metric)
    (dimension : Option Dimension) : Query :=
  ⟨Script.experimentScript (.build s metrics activation dimension)⟩

/-- The query for the values of a metric. -/
def compileMetricValue (p : MetricValueParams) : Query := ⟨Script.metricValueScript (.build p)⟩

end ExperimentQuery
