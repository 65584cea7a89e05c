import ExperimentQuery.Script.Pipeline

/-!
# Experiment scripts

The script of an experiment reads the events, drops those that matter to no predicate, folds the
events of each user, keeps the users in the experiment, collapses their values, and sums them up
for each variation and dimension.

* `predicates`, `eventFilter`, `aggregates`, `groups`, `rows`: the parts in order;
* **`experimentLines`**, **`experimentScript`**: the whole script.
-/

namespace ExperimentQuery.Script

/-- The predicates of a plan as functions. -/
def predicates (p : ExperimentPlan) : List Line :=
  predicateLines "Experiment exposure event" "isExposureEvent" (exposureExpr p.exposure) ++
    (match p.activation with
      | some a => predicateLines a.name "isActivationMetric" (eventPredicateExpr a.predicate)
      | none => []) ++
    (indexed p).flatMap fun m =>
      predicateLines m.2.name (metricTestName m.1) (eventPredicateExpr m.2.predicate)

/-- A predicate whose events are kept. -/
def keepLines (remark name : String) : List Line :=
  [comment remark,
    code (.raw "if (" :: (callOnEvent name).tokens ++ [.raw ") return true;"])]

/-- The stage that drops the events that match no predicate. -/
def eventFilter (p : ExperimentPlan) : List Line :=
  stage ".filter(function(event) "
    (keepLines "Experiment exposure event" "isExposureEvent" ++
      (match p.activation with
        | some a => keepLines a.name "isActivationMetric"
        | none => []) ++
      (indexed p).flatMap (fun m => keepLines m.2.name (metricTestName m.1)) ++
      [comment "Otherwise, ignore the event", codeText "return false;"])
    ")"

/-- The stage that keeps the users in the experiment. -/
def userFilterLines (p : ExperimentPlan) : List Line :=
  comment "Remove users that are not in the experiment" ::
    stage ".filter(function(user) "
      ((userFilter p).map UserCheck.line ++ [codeText "return true;"]) ")"

/-- The stage that collapses the values of each user. -/
def aggregates (p : ExperimentPlan) : List Line :=
  comment "Aggregate the metric value arrays for each user" ::
    stage ".map(function(user) "
      ((indexed p).flatMap (fun m => aggregationLines m.2 ("user.value." ++ valuesName m.1)) ++
        [codeText "return user;"]) ")"

/-- The lines that sum up each metric in a group. -/
def metricSummaries : List (Nat × MetricStep) → List Line
  | [] => []
  | m :: ms =>
    comment (metricComment m.2) ::
      code (summaryTokens ("value." ++ valuesName m.1) ++
        [.raw (if ms.isEmpty then "" else ",")]) ::
      metricSummaries ms

/-- What the groups are, in words. -/
def groupsRemark (p : ExperimentPlan) : String :=
  if p.dimension.isSome then "One group per experiment variation/dimension with summary data"
  else "One group per experiment variation with summary data"

/-- The keys of the groups. -/
def groupKeys (p : ExperimentPlan) : Expr :=
  .array (.str "value.variation" ::
    if p.dimension.isSome then [.str "value.dimension"] else [])

/-- The stage that sums up the users of each variation and dimension. -/
def groups (p : ExperimentPlan) : List Line :=
  comment (groupsRemark p) ::
    block (.raw ".groupBy(" :: (groupKeys p).tokens ++ [.raw ", ["])
      ([comment "Total users in the group",
        codeText ("mixpanel.reducer.count()" ++ if p.metrics.isEmpty then "" else ",")] ++
        metricSummaries (indexed p))
      "])"

/-- The value of a row's dimension. -/
def dimensionLine (p : ExperimentPlan) : Line :=
  if p.dimension.isSome then code [.raw "dimension: row.key[1] || ", .str "", .raw ","]
  else code [.raw "dimension: ", .str "", .raw ","]

/-- A variable that holds a list of texts. -/
def textsVariable (name : String) (texts : List String) : Line :=
  code (.raw ("var " ++ name ++ " = ") :: (Expr.array (texts.map .str)).tokens ++ [.raw ";"])

/-- The members of a metric's summary. -/
def summaryMembers : List Line :=
  [codeText "id: metricIds[i - 1],", codeText "metric_type: metricTypes[i - 1],",
    codeText "count: row.value[i].count,", codeText "main_sum: row.value[i].sum,",
    codeText "main_sum_squares: row.value[i].sum_squares"]

/-- The stage that turns each group into a row. -/
def rows (p : ExperimentPlan) : List Line :=
  comment "Convert to an object that's easier to work with" ::
    stage ".map(function(row) "
      ([textsVariable "metricIds" (p.metrics.map (·.id)),
        textsVariable "metricTypes" (p.metrics.map (·.kind.name))] ++
        braceBlock [.raw "var result = "]
          [codeText "variation: row.key[0],", dimensionLine p, codeText "users: row.value[0],",
            codeText "metrics: []"] ";" ++
        braceBlock [.raw "for (var i = 1; i < row.value.length; i++) "]
          (braceBlock [.raw "result.metrics.push("] summaryMembers ");") "" ++
        [codeText "return result;"])
      ");"

/-- **The lines of an experiment script.** -/
def experimentLines (p : ExperimentPlan) : List Line :=
  helperLines ++ predicates p ++ eventSource p.start p.stop p.selectors ++ eventFilter p ++
    comment "Array of metric values for each user" :: userGroup p.userKey (reducerLines p) ++
    userFilterLines p ++ aggregates p ++ groups p ++ rows p

/-- **The script of an experiment.** -/
def experimentScript (p : ExperimentPlan) : String := render (experimentLines p)

end ExperimentQuery.Script
