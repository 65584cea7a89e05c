import ExperimentQuery.Script.Tests
import ExperimentQuery.Script.Layout

/-!
# The reducer of an experiment script

For each user a script folds the events over a state: whether the user is in the experiment, saw
several variations or is activated, the variation and the dimension, the reference instant, a list
of values for each metric, and a queue of the events that came too early. The body of that loop is
a small program, which is written out line by line.

* `Check`, `Action`, `Stmt`: the statements of the loop;
* `activation`, **`loopBody`**: the loop of a plan;
* `Stmt.lines`, **`reducerLines`**: how the reducer is written;
* `UserCheck`, `userFilter`: which users are kept after it.
-/

namespace ExperimentQuery.Script

/-! ## Statements -/

/-- A condition that the loop tests. -/
inductive Check where
  | isExposure
  | notInExperiment
  | otherVariation
  | multipleVariants
  | notActivated
  | notActivation
  /-- The event matches a metric and lies in its window. -/
  | captures (metric : Nat)
  deriving Repr, DecidableEq

/-- A step that the loop takes. -/
inductive Action where
  | enter
  | takeVariation
  | takeDimension
  | markMultiple
  | markActivated
  | start
  | queue
  | clearQueue
  /-- Add the event's value to the list of a metric. -/
  | push (metric : Nat)
  /-- Go on with the next event. -/
  | next
  deriving Repr, DecidableEq

/-- A statement of the loop. -/
inductive Stmt where
  | comment (text : String)
  | act (a : Action)
  | when (c : Check) (body : List Stmt)
  /-- Run the body for each queued event. -/
  | replay (body : List Stmt)
  deriving Repr

/-! ## The loop -/

/-- The metrics of a plan with their positions. -/
def indexed (p : ExperimentPlan) : List (Nat × MetricStep) :=
  (List.range p.metrics.length).zip p.metrics

/-- The comment above the code of a metric. -/
def metricComment (m : MetricStep) : String := "Metric - " ++ m.name

/-- Capture the value of an event for a metric. -/
def capture (m : Nat × MetricStep) : List Stmt :=
  [.comment (metricComment m.2), .when (.captures m.1) [.act (.push m.1)]]

/-- Queue the event, if some metric's window opens early. -/
def queueIfEarly (p : ExperimentPlan) : List Stmt :=
  if p.hasEarlyStart then [.act .queue] else []

/-- Capture the values of the queued events for the metrics whose window opens early. -/
def replayQueue (p : ExperimentPlan) : List Stmt :=
  if p.hasEarlyStart then
    [.comment "Process queued values",
      .replay (((indexed p).filter (·.2.isEarlyStart)).flatMap capture),
      .act .clearQueue]
  else []

/-- Begin to capture values. -/
def activation (p : ExperimentPlan) : List Stmt :=
  (if p.activation.isSome then [.act .markActivated] else []) ++ .act .start :: replayQueue p

/-- What is done at the first exposure. -/
def firstExposure (p : ExperimentPlan) : List Stmt :=
  [.act .enter, .act .takeVariation] ++
    (if p.dimension.isSome then [.act .takeDimension] else []) ++
    (if p.activation.isNone then activation p else []) ++ [.act .next]

/-- What is done with an event before activation, if the plan has one. -/
def awaitActivation (p : ExperimentPlan) : List Stmt :=
  match p.activation with
  | none => []
  | some a =>
    [.comment "Not activated yet",
      .when .notActivated
        (.comment ("Does this event activate it? (" ++ a.name ++ ")") ::
          .when .notActivation (queueIfEarly p ++ [.act .next]) :: activation p)]

/-- **The body of the loop over a user's events.** -/
def loopBody (p : ExperimentPlan) : List Stmt :=
  [.comment "User is put into the experiment",
    .when .isExposure
      [.when .notInExperiment (firstExposure p), .when .otherVariation [.act .markMultiple],
        .act .next],
    .comment "Not in the experiment yet",
    .when .notInExperiment (queueIfEarly p ++ [.act .next]),
    .comment "Saw multiple variants so ignore",
    .when .multipleVariants [.act .next]] ++
  awaitActivation p ++ (indexed p).flatMap capture

/-! ## Writing -/

/-- The list of values of a metric. -/
def valuesName (i : Nat) : String := "m" ++ Decimal.digitText i

/-- A call of a predicate on the event. -/
def callOnEvent (name : String) : Expr := .call (.ident name) [.ident "event"]

/-- The name of a metric's predicate. -/
def metricTestName (i : Nat) : String := "isMetric" ++ Decimal.digitText i

/-- The test of a metric with its window, relative to the reference instant. -/
def captureExpr (i : Nat) (window : List WindowBound) : Expr :=
  match windowExpr? window "state.start" with
  | some w => .binary .and (callOnEvent (metricTestName i)) w
  | none => callOnEvent (metricTestName i)

/-- A member of the state. -/
def stateMember (name : String) : Expr := .member (.ident "state") name

/-- The expression of a check. -/
def Check.expr (p : ExperimentPlan) : Check → Expr
  | isExposure => callOnEvent "isExposureEvent"
  | notInExperiment => .not (stateMember "inExperiment")
  | otherVariation => .binary .strictNe (stateMember "variation") (Expr.property p.variationPath)
  | multipleVariants => stateMember "multipleVariants"
  | notActivated => .not (stateMember "activated")
  | notActivation => .not (callOnEvent "isActivationMetric")
  | captures i => captureExpr i ((p.metrics[i]?.map (·.window)).getD [])

/-- An assignment to a member of the state. -/
def assign (name : String) (value : List Token) : Line :=
  code ((stateMember name).tokens ++ .raw " = " :: value ++ [.raw ";"])

/-- The line that adds the event's value to a list. -/
def pushLine (list : Expr) (value : ValueExpr) : Line :=
  code ((Expr.call (.member list "push") [valueExpr value]).tokens ++ [.raw ";"])

/-- The line of a step. -/
def Action.line (p : ExperimentPlan) : Action → Line
  | enter => assign "inExperiment" [.raw "true"]
  | takeVariation => assign "variation" (Expr.property p.variationPath).tokens
  | takeDimension =>
    assign "dimension"
      ((Expr.binary .or (.paren (Expr.property ((p.dimension.map (·.path)).getD [])))
        (.raw "null")).tokens)
  | markMultiple => assign "multipleVariants" [.raw "true"]
  | markActivated => assign "activated" [.raw "true"]
  | start => assign "start" Expr.eventTime.tokens
  | queue => codeText "state.queuedEvents.push(event);"
  | clearQueue => assign "queuedEvents" [.raw "[]"]
  | push i =>
    pushLine (stateMember (valuesName i)) ((p.metrics[i]?.map (·.value)).getD .one)
  | next => codeText "continue;"

mutual

/-- The lines of a statement. -/
def Stmt.lines (p : ExperimentPlan) : Stmt → List Line
  | .comment s => [comment s]
  | .act a => [a.line p]
  | .when c body =>
    braceBlock (.raw "if (" :: (c.expr p).tokens ++ [.raw ") "]) (stmtsLines p body) ""
  | .replay body =>
    braceBlock [.raw "state.queuedEvents.forEach(function(event) "] (stmtsLines p body) ");"

/-- The lines of some statements. -/
def stmtsLines (p : ExperimentPlan) : List Stmt → List Line
  | [] => []
  | s :: ss => s.lines p ++ stmtsLines p ss

end

/-- The members of the state before any event. -/
def initialState (p : ExperimentPlan) : List Line :=
  [codeText "inExperiment: false,", codeText "multipleVariants: false,"] ++
    (if p.dimension.isSome then [codeText "dimension: null,"] else []) ++
    (if p.activation.isSome then [codeText "activated: false,"] else []) ++
    [codeText "start: null,", codeText "variation: null,"] ++
    (indexed p).map (fun m => codeText (valuesName m.1 ++ ": [],")) ++
    (if p.hasEarlyStart then [codeText "queuedEvents: [],"] else [])

/-- **The lines of the reducer.** -/
def reducerLines (p : ExperimentPlan) : List Line :=
  braceBlock [.raw "state = state || "] (initialState p) ";" ++
    braceBlock [.raw "for (var i = 0; i < events.length; i++) "]
      (codeText "var event = events[i];" :: stmtsLines p (loopBody p)) "" ++
    [codeText "return state;"]

/-! ## The users that are kept -/

/-- A reason to leave out a user. -/
inductive UserCheck where
  | notInExperiment
  | multipleVariants
  | noVariation
  | notActivated
  deriving Repr, DecidableEq

/-- The reasons to leave out a user. -/
def userFilter (p : ExperimentPlan) : List UserCheck :=
  [.notInExperiment, .multipleVariants, .noVariation] ++
    (if p.activation.isSome then [.notActivated] else [])

/-- The line of a reason to leave out a user. -/
def UserCheck.line : UserCheck → Line
  | notInExperiment => codeText "if (!user.value.inExperiment) return false;"
  | multipleVariants => codeText "if (user.value.multipleVariants) return false;"
  | noVariation =>
    codeText
      "if (user.value.variation === null || user.value.variation === undefined) return false;"
  | notActivated => codeText "if (!user.value.activated) return false;"

end ExperimentQuery.Script
