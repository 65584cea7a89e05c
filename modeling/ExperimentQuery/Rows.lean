import ExperimentQuery.Event
import ExperimentQuery.Metric.Codec
import ExperimentQuery.Interpreter.Summary

/-!
# Result rows

A query returns raw rows, in which sums may be missing and labels may be any value. They are
decoded into rows with texts for labels and zeros for missing sums.

* `RawMetricSummary`, `RawExperimentRow`, `RawDateRow`, `RawValueRow`: what a query returns;
* `SummaryRow`, `MetricValueRow`: the decoded rows;
* **`decodeExperimentRows`**, **`decodeValueRows`**: decoding;
* **`parseExperimentBody?`**, **`parseValueBody?`**: decoding of a response.
-/

namespace ExperimentQuery

/-! ## Raw rows -/

/-- The summary of a metric in a raw row. -/
structure RawMetricSummary where
  id : String
  kind : MetricKind
  count : Nat
  sum : Option Float := none
  sumSquares : Option Float := none
  deriving Repr

/-- The users of one variation and dimension. -/
structure RawExperimentRow where
  variation : Json
  dimension : Json := .null
  users : Nat
  metrics : List RawMetricSummary := []
  deriving Repr

/-- The users of one date. -/
structure RawDateRow where
  date : String
  count : Nat
  sum : Option Float := none
  sumSquares : Option Float := none
  deriving Repr

/-- One result of a value query: the sums over all users, or those for each date. -/
inductive RawValueRow where
  | overall (count : Nat) (sum sumSquares : Option Float)
  | byDate (dates : List RawDateRow)
  deriving Repr

/-! ## Decoded rows -/

/-- The summary of a metric. -/
structure MetricSummary where
  metric : String
  users : Nat
  kind : MetricKind
  count : Nat
  sum : Float
  sumSquares : Float
  deriving Repr

/-- The summaries of one variation and dimension. -/
structure SummaryRow where
  variation : String
  dimension : String
  users : Nat
  metrics : List MetricSummary
  deriving Repr

/-- The summary of a date, or of all users when the date is empty. -/
structure MetricValueRow where
  date : String
  count : Nat
  sum : Float
  sumSquares : Float
  deriving Repr

/-! ## Decoding -/

/-- The text of a label; `null` is the empty text. -/
def labelText : Json → String
  | .null => ""
  | v => Json.asText (some v)

/-- A metric's summary in a row with this many users. -/
def RawMetricSummary.decode (users : Nat) (m : RawMetricSummary) : MetricSummary :=
  { metric := m.id
    users
    kind := m.kind
    count := m.count
    sum := m.sum.getD 0.0
    sumSquares := m.sumSquares.getD 0.0 }

/-- A decoded row. -/
def RawExperimentRow.decode (r : RawExperimentRow) : SummaryRow :=
  { variation := labelText r.variation
    dimension := labelText r.dimension
    users := r.users
    metrics := r.metrics.map (·.decode r.users) }

/-- **The decoded rows of an experiment.** -/
def decodeExperimentRows (rs : List RawExperimentRow) : List SummaryRow := rs.map (·.decode)

/-- The row of a date. -/
def RawDateRow.decode (d : RawDateRow) : MetricValueRow :=
  ⟨d.date, d.count, d.sum.getD 0.0, d.sumSquares.getD 0.0⟩

/-- The row over all users, if a result is one. -/
def RawValueRow.overall? : RawValueRow → Option MetricValueRow
  | overall count sum sumSquares => some ⟨"", count, sum.getD 0.0, sumSquares.getD 0.0⟩
  | byDate _ => none

/-- The rows of a result's dates, in order of the dates. -/
def RawValueRow.dated : RawValueRow → List MetricValueRow
  | overall _ _ _ => []
  | byDate dates => (dates.mergeSort fun a b => a.date ≤ b.date).map (·.decode)

/-- **The decoded rows of a value query**: the last one over all users first, then the dates of
each result. -/
def decodeValueRows (rs : List RawValueRow) : List MetricValueRow :=
  (rs.filterMap (·.overall?)).getLastD ⟨"", 0, 0.0, 0.0⟩ :: rs.flatMap (·.dated)

/-! ## Documents -/

/-- A count of up to 64 bits. -/
def countOfJson? : Json → Option Nat := Json.natBelow? 64

/-- A raw metric summary. -/
def RawMetricSummary.ofJson? (v : Json) : Option RawMetricSummary := do
  let r ← v.record? ["id", "metric_type", "count", "main_sum", "main_sum_squares"]
  return {
    id := ← r.required "id" Json.string?
    kind := ← r.required "metric_type" MetricKind.ofJson?
    count := ← r.required "count" countOfJson?
    sum := ← r.optional "main_sum" Json.number?
    sumSquares := ← r.optional "main_sum_squares" Json.number? }

/-- The members of a raw metric summary. -/
def RawMetricSummary.toJson (m : RawMetricSummary) : Json :=
  .obj [("id", .str m.id), ("metric_type", m.kind.toJson), ("count", .ofNat m.count),
    ("main_sum", .ofOption .ofFloat m.sum),
    ("main_sum_squares", .ofOption .ofFloat m.sumSquares)]

/-- A raw row. -/
def RawExperimentRow.ofJson? (v : Json) : Option RawExperimentRow := do
  let r ← v.record? ["variation", "dimension", "users", "metrics"]
  return {
    variation := ← r.required "variation" fun v => some v.canonical
    dimension := ← r.withDefault "dimension" .null fun v => some v.canonical
    users := ← r.required "users" countOfJson?
    metrics := ← r.withDefault "metrics" [] (Json.list? RawMetricSummary.ofJson?) }

/-- The members of a raw row. -/
def RawExperimentRow.toJson (r : RawExperimentRow) : Json :=
  .obj [("variation", r.variation), ("dimension", r.dimension), ("users", .ofNat r.users),
    ("metrics", .arr (r.metrics.map RawMetricSummary.toJson))]

/-- The raw row of a date. -/
def RawDateRow.ofJson? (v : Json) : Option RawDateRow := do
  let r ← v.record? ["date", "count", "sum", "sum_squares"]
  return {
    date := ← r.required "date" Json.string?
    count := ← r.required "count" countOfJson?
    sum := ← r.optional "sum" Json.number?
    sumSquares := ← r.optional "sum_squares" Json.number? }

/-- The members of a date's raw row. -/
def RawDateRow.toJson (d : RawDateRow) : Json :=
  .obj [("date", .str d.date), ("count", .ofNat d.count), ("sum", .ofOption .ofFloat d.sum),
    ("sum_squares", .ofOption .ofFloat d.sumSquares)]

/-- A result of the type with this name. -/
def RawValueRow.ofBody? (kind : String) (body : Json) : Option RawValueRow := do
  if kind = "overall" then
    let r ← body.record? ["count", "sum", "sum_squares"]
    return overall (← r.required "count" countOfJson?) (← r.optional "sum" Json.number?)
      (← r.optional "sum_squares" Json.number?)
  else if kind = "byDate" then
    let r ← body.record? ["dates"]
    return byDate (← r.required "dates" (Json.list? RawDateRow.ofJson?))
  else none

/-- A result, which tells its type by a member, or by the first item of an array. -/
def RawValueRow.ofJson? : Json → Option RawValueRow
  | .arr (kind :: body) => kind.string?.bind fun kind => ofBody? kind (.arr body)
  | .obj members =>
    match members.filter (·.1 = "type") with
    | [(_, .str kind)] => ofBody? kind (.obj (members.filter (·.1 ≠ "type")))
    | _ => none
  | _ => none

/-- The members of a result. -/
def RawValueRow.toJson : RawValueRow → Json
  | overall count sum sumSquares =>
    .obj [("type", .str "overall"), ("count", .ofNat count), ("sum", .ofOption .ofFloat sum),
      ("sum_squares", .ofOption .ofFloat sumSquares)]
  | byDate dates => .obj [("type", .str "byDate"), ("dates", .arr (dates.map RawDateRow.toJson))]

/-- The members of a metric summary. -/
def MetricSummary.toJson (m : MetricSummary) : Json :=
  .obj [("metric", .str m.metric), ("users", .ofNat m.users), ("metric_type", m.kind.toJson),
    ("count", .ofNat m.count), ("main_sum", .ofFloat m.sum),
    ("main_sum_squares", .ofFloat m.sumSquares)]

/-- The members of a row. -/
def SummaryRow.toJson (r : SummaryRow) : Json :=
  .obj [("variation", .str r.variation), ("dimension", .str r.dimension),
    ("users", .ofNat r.users), ("metrics", .arr (r.metrics.map MetricSummary.toJson))]

/-! ## Responses -/

/-- **The rows of an experiment's response.** -/
def parseExperimentBody? (body : Json) : Option (List SummaryRow) :=
  (Json.list? RawExperimentRow.ofJson? body).map decodeExperimentRows

/-- The results in the response of a value query: the items of its first item. -/
def responseEntries : Json → List Json
  | .arr (.arr entries :: _) => entries
  | _ => []

/-- Whether an entry names a type. -/
def hasType (entry : Json) : Bool := ((entry.get? "type").bind Json.string?).isSome

/-- **The rows of a value query's response**; entries that name no type are passed over. -/
def parseValueBody? (body : Json) : Option (List MetricValueRow) :=
  (((responseEntries body).filter hasType).mapM RawValueRow.ofJson?).map decodeValueRows

end ExperimentQuery
