import ExperimentQuery.Plan.Basic
import ExperimentQuery.Script.Expr

/-!
# Tests in scripts

The expressions that a script tests events with.

* `conditionExpr`, `eventPredicateExpr`, `exposureExpr`, `segmentExpr`: predicates;
* `valueExpr`: what an event contributes;
* `windowExpr?`: the bounds of a window.
-/

namespace ExperimentQuery.Script

open Script.Expr (property conj eventName eventTime)

/-- A property matched with a pattern; what is missing reads as empty. -/
def matchExpr (subject : Expr) (pattern : String) : Expr :=
  .call (.member (.paren (.binary .or subject (.str ""))) "match") [.str pattern]

/-- The test of a condition. -/
def conditionExpr (t : ConditionTest) : Expr :=
  let column := property t.path
  match t.op with
  | .eq => .binary .looseEq (.binary .add column (.str "")) (.str t.value)
  | .ne => .binary .looseNe (.binary .add column (.str "")) (.str t.value)
  | .matching => matchExpr column t.value
  | .notMatching => .not (matchExpr column t.value)
  | .gt => .binary .gt column (.number t.numericValue)
  | .ge => .binary .ge column (.number t.numericValue)
  | .lt => .binary .lt column (.number t.numericValue)
  | .le => .binary .le column (.number t.numericValue)

/-- The test of the event's name: equality for one name, membership for several. -/
def nameExpr : List String → Expr
  | [name] => .binary .strictEq eventName (.str name)
  | names => .call (.member (.array (names.map .str)) "includes") [eventName]

/-- The test of an event predicate. -/
def eventPredicateExpr (p : EventPredicate) : Expr :=
  conj (nameExpr p.names :: p.conditions.map conditionExpr)

/-- The test of an exposure. -/
def exposureExpr (p : ExposurePredicate) : Expr :=
  conj [
    .binary .strictEq eventName (.str p.eventName),
    .binary .strictEq (property p.experimentIdPath) (.str p.experimentId),
    .binary .ge eventTime (.int p.start),
    .binary .le eventTime (.int p.stop)]

/-- The test of a segment. -/
def segmentExpr (p : SegmentPredicate) : Expr := conj (p.conditions.map conditionExpr)

/-- What an event contributes. -/
def valueExpr : ValueExpr → Expr
  | .one => .number 1.0
  | .literal text => .raw text
  | .raw text => .raw text
  | .property path => property path

/-- The test of one bound of a window relative to a reference instant. -/
def boundExpr (start : String) : WindowBound → Expr
  | .elapsedAtLeast ms => .binary .ge (.binary .sub eventTime (.raw start)) (.int ms)
  | .elapsedBelow ms => .binary .lt (.binary .sub eventTime (.raw start)) (.int ms)
  | .lookback stop length => .binary .le (.binary .sub (.int stop) eventTime) (.int length)

/-- The test of all bounds of a window, if it has any. -/
def windowExpr? (bounds : List WindowBound) (start : String) : Option Expr :=
  if bounds.isEmpty then none else some (conj (bounds.map (boundExpr start)))

end ExperimentQuery.Script
