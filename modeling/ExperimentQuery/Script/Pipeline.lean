import ExperimentQuery.Script.Reducer

/-!
# Parts of query scripts

What the scripts of experiments and of metric values have in common: helper functions, predicates,
the source of the events, grouping by user, and collapsing a user's values.

* `helperLines`: the functions that collapse values;
* `predicateLines`: a predicate as a function;
* `eventSource`: the events of some days with some names;
* `userGroup`: grouping by user;
* `aggregationLines`: a user's values collapsed into one number.
-/

namespace ExperimentQuery.Script

/-- A text in braces. -/
def braced (s : String) : String := "\x7b " ++ s ++ " \x7d"

/-- A function of the script with its body. -/
def functionLines (head : String) (body : List Line) : List Line :=
  braceBlock [.raw ("function " ++ head ++ " ")] body ""

/-- The functions that collapse values. -/
def helperLines : List Line :=
  comment "Helper aggregation functions" ::
  functionLines "sum(values)"
    [codeText ("return values.reduce(function(total, n) " ++ braced "return total + n;" ++
      ", 0);")] ++
  functionLines "min(values)" [codeText "return Math.min.apply(null, values);"] ++
  functionLines "max(values)" [codeText "return Math.max.apply(null, values);"] ++
  functionLines "avg(values)" [codeText "return sum(values) / values.length;"] ++
  functionLines "median(values)"
    [codeText ("var sorted = values.slice().sort(function(a, b) " ++ braced "return a - b;" ++
        ");"),
      codeText "var mid = Math.floor(sorted.length / 2);",
      codeText
        "return sorted.length % 2 ? sorted[mid] : (sorted[mid - 1] + sorted[mid]) / 2;"] ++
  functionLines "countDistinct(values)"
    [codeText "var seen = \x7b\x7d;",
      codeText ("values.forEach(function(v) " ++ braced "seen[v] = true;" ++ ");"),
      codeText "return Object.keys(seen).length;"] ++
  [blank]

/-- A predicate as a function. -/
def predicateLines (remark name : String) (body : Expr) : List Line :=
  comment remark ::
    functionLines (name ++ "(event)") [code (.raw "return " :: body.tokens ++ [.raw ";"])] ++
    [blank]

/-- The date of an instant as a string literal. -/
def dateToken (t : Time.Instant) : Token := .str t.date.text

/-- Items in lines of their own with commas after all but the last. -/
def separated {α : Type} (line : α → String → Line) : List α → List Line
  | [] => []
  | [a] => [line a ""]
  | a :: as => line a "," :: separated line as

/-- The line that selects events by name. -/
def selectorLine (name sep : String) : Line :=
  code [.raw "\x7b", .str "event", .raw ": ", .str name, .raw ("\x7d" ++ sep)]

/-- The events of the days from `start` to `stop` with some names. -/
def eventSource (start stop : Time.Instant) (selectors : List String) : List Line :=
  block [.raw "return Events(\x7b"]
    ([code [.str "from_date", .raw ": ", dateToken start, .raw ","],
      code [.str "to_date", .raw ": ", dateToken stop, .raw ","]] ++
      block [.str "event_selectors", .raw ": ["] (separated selectorLine selectors) "]")
    "\x7d)"

/-- A stage of the pipeline that applies a function. -/
def stage (head : String) (body : List Line) (closing : String) : List Line :=
  braceBlock [.raw head] body closing

/-- The stage that folds the events of each user, users being told apart by a property as well if
one is given. -/
def userGroup (userKey : Option String) (body : List Line) : List Line :=
  let key : List Token := match userKey with
    | some name => [.raw "[", .str name, .raw "], "]
    | none => []
  braceBlock (.raw ".groupByUser(" :: key ++ [.raw "function(state, events) "]) body ")"

/-! ## Collapsing values -/

/-- The expression of an aggregation over `values`. -/
def aggregationText : Aggregation → String
  | .sum => "sum(values)"
  | .count => "values.length"
  | .countDistinct => "countDistinct(values)"
  | .min => "min(values)"
  | .max => "max(values)"
  | .avg => "avg(values)"
  | .median => "median(values)"

/-- The sign of a comparison. -/
def compareSign : CompareOp → String
  | .eq => "==="
  | .ne => "!=="
  | .lt => "<"
  | .le => "<="
  | .gt => ">"
  | .ge => ">="

/-- A comparison of `x`. -/
def comparisonText (c : Comparison) : String :=
  "x " ++ compareSign c.op ++ " " ++ Decimal.scriptNumber c.value

/-- The test of an aggregate filter on the list of values `dest`. -/
def aggregateFilterText (f : AggregateFilter) (dest : String) : String :=
  let observed := match f.column with
    | .rowCount => dest ++ ".length"
    | .column _ => "sum(" ++ dest ++ ")"
  "(function(x) " ++
    braced ("return " ++ String.intercalate " && " (f.comparisons.map comparisonText) ++ ";") ++
    ")(" ++ observed ++ ")"

/-- The lines that replace the list of values `dest` by the number it collapses into. -/
def aggregationLines (m : MetricStep) (dest : String) : List Line :=
  comment (metricComment m) ::
    if m.kind.isBinomial then
      match m.aggregateFilter with
      | some f =>
        [codeText (dest ++ " = " ++ dest ++ ".length && " ++ aggregateFilterText f dest ++
          " ? 1 : 0;")]
      | none => [codeText (dest ++ " = " ++ dest ++ ".length ? 1 : 0;")]
    else
      codeText (dest ++ " = !" ++ dest ++ ".length ? 0 : (function(values) " ++
        braced ("return " ++ aggregationText m.aggregation ++ ";") ++ ")(" ++ dest ++ ");") ::
      match m.cap with
      | some cap =>
        [codeText (dest ++ " = " ++ dest ++ " && Math.min(" ++ dest ++ ", " ++
          Decimal.scriptNumber cap ++ ");")]
      | none => []

/-- The reducer that sums up a property of the users. -/
def summaryTokens (property : String) : List Token :=
  [.raw "mixpanel.reducer.numeric_summary(", .str property, .raw ")"]

end ExperimentQuery.Script
