import ExperimentQuery.Event
import ExperimentQuery.Metric.Basic
import ExperimentQuery.Regex.Meaning

/-!
# Predicates on events

* `propertyPath`: the segments of a path with dots;
* `ConditionTest`, **`ConditionTest.accepts`**: a condition, ready to test events;
* `EventPredicate`, `SegmentPredicate`, `ExposurePredicate` with their tests;
* `DimensionExpr`, `DimensionExpr.eval`: the bucket of a user.
-/

namespace ExperimentQuery

/-- The segments of a path with dots. -/
def propertyPath (column : String) : List String :=
  (Text.splitOn '.' column.toList).map String.ofList

/-- A condition on the property at a path. A condition that matches a pattern keeps what the
pattern stands for, if it is one. -/
structure ConditionTest where
  path : List String
  op : ConditionOp
  value : String
  pattern : Option Regex
  deriving Repr, DecidableEq

namespace ConditionTest

/-- What the value of a condition stands for as a pattern, if the condition matches one. -/
def patternOf? (op : ConditionOp) (value : String) : Option Regex :=
  match op with
  | .matching | .notMatching => Regex.parse? value
  | _ => none

/-- The test of a condition. -/
def ofCondition (c : Condition) : ConditionTest :=
  ⟨propertyPath c.column, c.op, c.value, patternOf? c.op c.value⟩

/-- The number that the numeric operators compare with; a text that is no number compares with
nothing. -/
def numericValue (t : ConditionTest) : Float :=
  (Decimal.read? (Text.trim t.value)).getD Decimal.nan

/-- The text that a pattern is matched with; what is missing reads as empty. -/
def patternSubject : Option Json → String
  | none | some .null => ""
  | some v => Json.asText (some v)

/-- Whether the pattern of a condition matches; a value that is no pattern never does. -/
def patternMatches (t : ConditionTest) (actual : Option Json) : Bool :=
  t.pattern.any (·.isMatch (patternSubject actual))

/-- Whether the property as a number stands in a relation to the condition's number. -/
def compares (t : ConditionTest) (actual : Option Json) (rel : Float → Float → Bool) : Bool :=
  (actual.bind Json.asNumber?).any fun lhs => rel lhs t.numericValue

/-- Whether a property satisfies a condition. -/
def holds (t : ConditionTest) (actual : Option Json) : Bool :=
  match t.op with
  | .eq => Json.asText actual == t.value
  | .ne => Json.asText actual != t.value
  | .matching => t.patternMatches actual
  | .notMatching => !t.patternMatches actual
  | .gt => t.compares actual fun a b => b < a
  | .ge => t.compares actual fun a b => b <= a
  | .lt => t.compares actual fun a b => a < b
  | .le => t.compares actual fun a b => a <= b

/-- **Whether an event satisfies a condition.** -/
def accepts (t : ConditionTest) (e : Event) : Bool := t.holds (e.lookup? t.path)

end ConditionTest

/-- One of some event names and all of some conditions. -/
structure EventPredicate where
  names : List String
  conditions : List ConditionTest
  deriving Repr, DecidableEq

/-- The predicate of some names and conditions. -/
def EventPredicate.ofConditions (names : List String) (conditions : List Condition) :
    EventPredicate :=
  ⟨names, conditions.map ConditionTest.ofCondition⟩

/-- Whether an event has one of the names and satisfies the conditions. -/
def EventPredicate.accepts (p : EventPredicate) (e : Event) : Bool :=
  p.names.contains e.name && p.conditions.all (·.accepts e)

/-- The conditions of a segment. -/
structure SegmentPredicate where
  name : String
  conditions : List ConditionTest
  deriving Repr, DecidableEq

/-- Whether an event belongs to a segment. -/
def SegmentPredicate.accepts (p : SegmentPredicate) (e : Event) : Bool :=
  p.conditions.all (·.accepts e)

/-- What an exposure to an experiment looks like. -/
structure ExposurePredicate where
  eventName : String
  experimentIdPath : List String
  experimentId : String
  start : Int
  stop : Int
  deriving Repr, DecidableEq

/-- Whether an event is an exposure: it has the name, its experiment is a text equal to the id, and
it lies in the time of the experiment, both ends included. -/
def ExposurePredicate.accepts (p : ExposurePredicate) (e : Event) : Bool :=
  e.name == p.eventName &&
    ((e.lookup? p.experimentIdPath).bind Json.string? == some p.experimentId) &&
    p.start ≤ e.time && e.time ≤ p.stop

/-- A dimension: the path of the property whose values are the buckets. -/
structure DimensionExpr where
  path : List String
  deriving Repr, DecidableEq

/-- The bucket of a property: its text, and none for a value that counts as missing. -/
def DimensionExpr.bucket : Option Json → Option String
  | none | some .null | some (.bool false) => none
  | some (.str s) => if s = "" then none else some s
  | some v => if v.number?.any (· == 0.0) then none else some (Json.asText (some v))

/-- The bucket of an event. -/
def DimensionExpr.eval (d : DimensionExpr) (e : Event) : Option String :=
  bucket (e.lookup? d.path)

end ExperimentQuery
