import ExperimentQuery.Script.Pipeline

/-!
# Metric value scripts

The script of a value query reads the events of one metric, collapses the values of each user, and
sums them up over all users and, if asked for, for each date. Here is also the script that checks
a connection by counting the events of a day.

* `byDateReducer`: the function that sums up by date;
* **`metricValueLines`**, **`metricValueScript`**: the script of a value query;
* **`connectionCheckScript`**: the script that checks a connection.
-/

namespace ExperimentQuery.Script

/-- A date's sums before any user. -/
def emptyDate (target : String) : Line :=
  codeText (target ++ " = " ++ target ++ " || \x7bcount: 0, sum: 0, sum_squares: 0\x7d;")

/-- The function that merges earlier sums and adds users, by date. -/
def byDateReducer : List Line :=
  braceBlock [.raw "function(prevs, users) "]
    ([codeText "var dates = \x7b\x7d;"] ++
      braceBlock [.raw "prevs.forEach(function(prev) "]
        (braceBlock [.raw "prev.dates.forEach(function(d) "]
          [emptyDate "dates[d.date]", codeText "dates[d.date].count += d.count;",
            codeText "dates[d.date].sum += d.sum;",
            codeText "dates[d.date].sum_squares += d.sum_squares;"] ");") ");" ++
      braceBlock [.raw "users.forEach(function(user) "]
        [codeText "var date = new Date(user.value.date).toISOString().substr(0, 10);",
          emptyDate "dates[date]", codeText "dates[date].count++;",
          codeText "dates[date].sum += user.value.metricValue;",
          codeText "dates[date].sum_squares += Math.pow(user.value.metricValue, 2);"] ");" ++
      braceBlock [.raw "return "]
        (code [.raw "type: ", .str "byDate", .raw ","] ::
          braceBlock [.raw "dates: Object.keys(dates).map(function(date) "]
            [codeText ("return \x7bdate: date, count: dates[date].count, sum: dates[date].sum, " ++
              "sum_squares: dates[date].sum_squares\x7d;")] ")") ";") ""

/-- The stage that keeps the events of the segment and the metric. -/
def valueEventFilter (p : MetricValuePlan) : List Line :=
  let segment := match p.segment with
    | some s =>
      [comment ("Limit to Segment - " ++ s.name),
        code (.raw "if (!(" :: (segmentExpr s).tokens ++ [.raw ")) return false;"])]
    | none => []
  stage ".filter(function(event) "
    (segment ++ [codeText "if (isMetric(event)) return true;", codeText "return false;"]) ")"

/-- The fold of a user's events: the time of the first one and the values. -/
def valueReducer (p : MetricValuePlan) : List Line :=
  codeText "state = state || \x7bdate: null, metricValue: []\x7d;" ::
    braceBlock [.raw "for (var i = 0; i < events.length; i++) "]
      ([codeText "var event = events[i];", codeText "state.date = state.date || event.time;"] ++
        braceBlock [.raw "if (isMetric(event)) "]
          [pushLine (stateMember "metricValue") p.metric.value] "") "" ++
    [codeText "return state;"]

/-- The stage that sums up the users. -/
def valueReduction (p : MetricValuePlan) : List Line :=
  let overall := summaryTokens "value.metricValue"
  block [.raw ".reduce(["]
    (comment "Overall summary metrics" ::
      if p.includeByDate then
        code (overall ++ [.raw ","]) :: comment "Summary metrics by date" :: byDateReducer
      else [code overall])
    "])"

/-- The stage that marks the overall sums. -/
def valueRows : List Line :=
  comment "Transform into easy-to-use objects" ::
    stage ".map(function(vals) "
      (stage "return vals.map(function(val) "
        [code [.raw "if (val.count) return Object.assign(\x7btype: ", .str "overall",
            .raw "\x7d, val);"],
          codeText "return val;"] ");") ");"

/-- **The lines of a metric value script.** -/
def metricValueLines (p : MetricValuePlan) : List Line :=
  helperLines ++
    predicateLines p.metric.name "isMetric" (eventPredicateExpr p.metric.predicate) ++
    comment (p.name ++ " - Metric value (" ++ p.metric.name ++ ")") ::
    eventSource p.start p.stop p.selectors ++ valueEventFilter p ++
    comment "Metric value per user" :: userGroup p.userKey (valueReducer p) ++
    comment "Remove users that did not convert" ::
    stage ".filter(function(user) "
      [codeText "return user.value.date && user.value.metricValue.length > 0;"] ")" ++
    comment "Aggregate metric values per user" ::
    stage ".map(function(user) "
      (aggregationLines p.metric "user.value.metricValue" ++ [codeText "return user;"]) ")" ++
    valueReduction p ++ valueRows

/-- **The script of a value query.** -/
def metricValueScript (p : MetricValuePlan) : String := render (metricValueLines p)

/-- The lines that count the events of a day. -/
def connectionCheckLines (day : Time.Date) : List Line :=
  block [.raw "return Events(\x7b"]
    [code [.str "from_date", .raw ": ", .str day.text, .raw ","],
      code [.str "to_date", .raw ": ", .str day.text]]
    "\x7d)" ++
  [codeText ".reduce(mixpanel.reducer.count());"]

/-- **The script that counts the events of a day**, which checks a connection. -/
def connectionCheckScript (day : Time.Date) : String := render (connectionCheckLines day)

end ExperimentQuery.Script
