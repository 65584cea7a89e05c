import ExperimentQuery.Interpreter.UserState
import ExperimentQuery.Rows

/-!
# Running plans

A plan is run over events as its script would be: the events are selected, grouped by user and put
in time order, folded for each user, and summed up.

* `UserKey`, `userKey`, `groupByUser`: the events of each user;
* `selectEvents`: the events that a query reads;
* `groupTotals`: the users summed up by variation and dimension;
* **`runExperiment`**: the rows of an experiment plan;
* **`runMetricValue`**: the results of a value plan.
-/

namespace ExperimentQuery

/-- Whether a pair of texts comes before another one. -/
def pairLt (a b : String × String) : Prop := a.1 < b.1 ∨ (a.1 = b.1 ∧ a.2 < b.2)

instance (a b : String × String) : Decidable (pairLt a b) := by unfold pairLt; infer_instance

/-! ## Users -/

/-- What tells users apart: the id, and the text of a further property. -/
structure UserKey where
  distinctId : String
  extra : String
  deriving Repr, DecidableEq

instance : LT UserKey := ⟨fun a b => pairLt (a.distinctId, a.extra) (b.distinctId, b.extra)⟩

instance : DecidableLT UserKey := fun a b =>
  inferInstanceAs (Decidable (pairLt (a.distinctId, a.extra) (b.distinctId, b.extra)))

/-- The user of an event; a further property counts if one is named. -/
def userKey (property : Option String) (e : Event) : UserKey :=
  ⟨e.distinctId, (property.map fun name => Json.asText (e.lookup? (propertyPath name))).getD ""⟩

/-- Events in time order; those of one time keep their order. -/
def inTimeOrder (es : List Event) : List Event := es.mergeSort fun a b => a.time ≤ b.time

/-- Each user's events, in time order. -/
def groupByUser (property : Option String) (es : List Event) : List (UserKey × List Event) :=
  (es.foldl (fun users e => Ordered.update (userKey property e) (fun es => es.getD [] ++ [e]) users)
    []).map fun u => (u.1, inTimeOrder u.2)

/-- Whether an event lies on one of the days from `start` to `stop`. -/
def inDays (start stop : Time.Instant) (e : Event) : Bool :=
  (Time.dayOfMillis? e.time).any fun day => start.day ≤ day && day ≤ stop.day

/-- The events with a selected name on one of the days that pass a test. -/
def selectEvents (selectors : List String) (start stop : Time.Instant) (keep : Event → Bool)
    (es : List Event) : List Event :=
  es.filter fun e => selectors.contains e.name && inDays start stop e && keep e

/-! ## Experiments -/

/-- A variation and a dimension. -/
structure Group where
  variation : String
  dimension : String
  deriving Repr, DecidableEq

instance : LT Group := ⟨fun a b => pairLt (a.variation, a.dimension) (b.variation, b.dimension)⟩

instance : DecidableLT Group := fun a b =>
  inferInstanceAs (Decidable (pairLt (a.variation, a.dimension) (b.variation, b.dimension)))

/-- The group of a user. -/
def UserState.group (s : UserState) : Group := ⟨Json.asText s.variation, s.dimension.getD ""⟩

/-- The users of a group and the summary of each metric. -/
structure GroupTotals (α : Type) where
  users : Nat
  metrics : List (Summary α)
  deriving Repr

section

variable {α : Type} [OfNat α 0] [Add α] [Mul α]

/-- A group without users, for some number of metrics. -/
def GroupTotals.empty (metrics : Nat) : GroupTotals α := ⟨0, List.replicate metrics .empty⟩

/-- Add a user with the number of each metric. -/
def GroupTotals.add (t : GroupTotals α) (numbers : List α) : GroupTotals α :=
  ⟨t.users + 1, List.zipWith Summary.push t.metrics numbers⟩

/-- Add a user to the groups, if the user counts. -/
def addToGroups (metrics : Nat) (numbers : UserState → List α)
    (groups : List (Group × GroupTotals α)) (s : UserState) : List (Group × GroupTotals α) :=
  if s.isIncluded then
    Ordered.update s.group (fun t => (t.getD (.empty metrics)).add (numbers s)) groups
  else groups

/-- The groups of some users, each with a number for each metric. The numbers may be of any type, so
that rounding is a matter of the type. -/
def groupTotals (metrics : Nat) (numbers : UserState → List α) (states : List UserState) :
    List (Group × GroupTotals α) :=
  states.foldl (addToGroups metrics numbers) []

end

/-- The summary of a metric in a row. -/
def rawSummary (m : MetricStep) (s : Summary Float) : RawMetricSummary :=
  { id := m.id, kind := m.kind, count := s.count, sum := some s.sum,
    sumSquares := some s.sumSquares }

/-- The row of a group. -/
def groupRow (p : ExperimentPlan) (g : Group × GroupTotals Float) : RawExperimentRow :=
  { variation := .str g.1.variation
    dimension := .str g.1.dimension
    users := g.2.users
    metrics := List.zipWith rawSummary p.metrics g.2.metrics }

/-- Whether an event matters to an experiment. -/
def ExperimentPlan.concerns (p : ExperimentPlan) (e : Event) : Bool :=
  p.exposure.accepts e || p.activates e || p.metrics.any (·.predicate.accepts e)

/-- The final state of each user, in order of the users. -/
def userStates (p : ExperimentPlan) (es : List Event) : List UserState :=
  (groupByUser p.userKey es).map fun u => .afterEvents p u.2

/-- **The rows of an experiment plan over some events.** -/
def runExperiment (p : ExperimentPlan) (es : List Event) : List RawExperimentRow :=
  let selected := selectEvents p.selectors p.start p.stop p.concerns es
  (groupTotals p.metrics.length (UserState.aggregate p) (userStates p selected)).map (groupRow p)

/-! ## Values of one metric -/

/-- Whether an event counts in a value query. -/
def MetricValuePlan.concerns (p : MetricValuePlan) (e : Event) : Bool :=
  p.segment.all (·.accepts e) && p.metric.predicate.accepts e

/-- The time of a user's first event and the number that the values collapse into. -/
def userValue? (m : MetricStep) (es : List Event) : Option (Int × Float) :=
  es.head?.map fun first => (first.time, m.aggregate (es.map m.contribution))

/-- The time and the number of each user, in order of the users. -/
def userValues (p : MetricValuePlan) (es : List Event) : List (Int × Float) :=
  (groupByUser p.userKey (selectEvents p.selectors p.start p.stop p.concerns es)).filterMap
    fun u => userValue? p.metric u.2

/-- The row of a date. -/
def dateRow (d : String × Summary Float) : RawDateRow :=
  { date := d.1, count := d.2.count, sum := some d.2.sum, sumSquares := some d.2.sumSquares }

/-- The number of users in a batch when none is given. -/
def defaultBatchSize : Nat := 1000

/-- **The results of a value plan over some events**, users being summed up by date in batches. -/
def runMetricValue (batchSize : Nat) (p : MetricValuePlan) (es : List Event) : List RawValueRow :=
  let users := userValues p es
  let s := Summary.ofList (users.map (·.2))
  .overall s.count (some s.sum) (some s.sumSquares) ::
    if p.includeByDate then [.byDate ((batchedByDate users batchSize).map dateRow)] else []

end ExperimentQuery
