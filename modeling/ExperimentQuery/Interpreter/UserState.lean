import ExperimentQuery.Plan.Basic

/-!
# The state of a user

The events of a user are observed in time order. The first exposure fixes the variation and the
dimension; a later one with another variation excludes the user. From the exposure on, or from the
activation if the plan has one, the values of matching events are captured. Events that come
before that wait in a backlog if some metric's window opens early.

* `Phase`: where a user stands;
* `Progress`: what is known of a user, anything being kept of the events that are captured;
* **`Progress.observe`**: what is known after one more event;
* `UserState`, **`UserState.observe`**: the numbers of the captured events are kept;
* `Progress.isIncluded`, `UserState.aggregate`: what the user adds to the results.
-/

namespace ExperimentQuery

/-- Where a user stands in an experiment. -/
inductive Phase where
  | notExposed
  /-- Exposed and waiting for the activation. -/
  | exposed
  /-- Values are captured. -/
  | active
  /-- Saw several variations, and is excluded. -/
  | multiVariant
  deriving Repr, DecidableEq

/-- The name of a phase. -/
def Phase.name : Phase → String
  | notExposed => "NotExposed"
  | exposed => "Exposed"
  | active => "Active"
  | multiVariant => "MultiVariant"

/-- What is known of one user; what is kept of a captured event may be of any type. -/
structure Progress (α : Type) where
  phase : Phase
  variation : Option Json
  dimension : Option String
  /-- The reference instant of windows. -/
  start : Option Int
  /-- What was captured, a list for each metric. -/
  values : List (List α)
  /-- The events that wait for the reference instant, if any metric needs them. -/
  backlog : Option (List Event)
  deriving Repr

/-- Whether two properties are equal, a missing one being equal to itself only. -/
def sameProperty : Option Json → Option Json → Bool
  | none, none => true
  | some a, some b => Json.same a b
  | _, _ => false

/-- Whether a property has a value other than `null`. -/
def hasValue : Option Json → Bool
  | none | some .null => false
  | _ => true

section

variable {α : Type} (read : MetricStep → Event → α)

/-- The lists of values with an event captured for the metrics that `wants` selects, if it matches
and lies in their windows; `read` says what is kept of it. -/
def captureFor (metrics : List MetricStep) (wants : MetricStep → Bool) (start : Int) (e : Event)
    (values : List (List α)) : List (List α) :=
  List.zipWith
    (fun m vs =>
      if wants m && m.predicate.accepts e && m.inWindow e.time start then vs ++ [read m e] else vs)
    metrics values

namespace Progress

/-- What is known before any event. -/
def initial (p : ExperimentPlan) : Progress α :=
  { phase := .notExposed
    variation := none
    dimension := none
    start := none
    values := p.metrics.map fun _ => []
    backlog := if p.hasEarlyStart then some [] else none }

/-- Let an event wait, if events do. -/
def enqueue (e : Event) (s : Progress α) : Progress α :=
  { s with backlog := s.backlog.map (· ++ [e]) }

/-- Capture an event. -/
def capture (p : ExperimentPlan) (e : Event) (s : Progress α) : Progress α :=
  match s.start with
  | none => s
  | some start => { s with values := captureFor read p.metrics (fun _ => true) start e s.values }

/-- Begin to capture, with the waiting events captured for the metrics whose windows open early. -/
def activate (p : ExperimentPlan) (time : Int) (s : Progress α) : Progress α :=
  { s with
    phase := .active
    start := some time
    values := (s.backlog.getD []).foldl
      (fun values e => captureFor read p.metrics MetricStep.isEarlyStart time e values) s.values
    backlog := none }

/-- The first exposure. -/
def enter (p : ExperimentPlan) (e : Event) (s : Progress α) : Progress α :=
  let s := { s with
    variation := e.lookup? p.variationPath
    dimension := p.dimension.bind (·.eval e) }
  if p.activation.isSome then { s with phase := .exposed } else s.activate read p e.time

/-- A later exposure. -/
def reexpose (p : ExperimentPlan) (e : Event) (s : Progress α) : Progress α :=
  if sameProperty (e.lookup? p.variationPath) s.variation then s
  else { s with phase := .multiVariant, backlog := none }

/-- An exposure. -/
def onExposure (p : ExperimentPlan) (e : Event) (s : Progress α) : Progress α :=
  match s.phase with
  | .notExposed => s.enter read p e
  | .exposed | .active => s.reexpose p e
  | .multiVariant => s

/-- An event that is no exposure. -/
def onEvent (p : ExperimentPlan) (e : Event) (s : Progress α) : Progress α :=
  match s.phase with
  | .notExposed => s.enqueue e
  | .multiVariant => s
  | .exposed =>
    if p.activates e then (s.activate read p e.time).capture read p e else s.enqueue e
  | .active => s.capture read p e

/-- **What is known after one more event.** -/
def observe (p : ExperimentPlan) (s : Progress α) (e : Event) : Progress α :=
  if p.exposure.accepts e then s.onExposure read p e else s.onEvent read p e

/-- What is known after some events. -/
def afterEvents (p : ExperimentPlan) (es : List Event) : Progress α :=
  es.foldl (observe read p) (initial p)

@[simp]
theorem afterEvents_nil (p : ExperimentPlan) : afterEvents read p [] = initial p := rfl

theorem afterEvents_append (p : ExperimentPlan) (es fs : List Event) :
    afterEvents read p (es ++ fs) = fs.foldl (observe read p) (afterEvents read p es) := by
  simp [afterEvents]

theorem afterEvents_append_singleton (p : ExperimentPlan) (es : List Event) (e : Event) :
    afterEvents read p (es ++ [e]) = observe read p (afterEvents read p es) e := by
  rw [afterEvents_append, List.foldl_cons, List.foldl_nil]

/-- Whether the user counts in the results. -/
def isIncluded (s : Progress α) : Bool := s.phase = .active && hasValue s.variation

end Progress

end

/-! ## Numbers -/

/-- What is known of one user, the numbers of the captured events being kept. -/
abbrev UserState := Progress Sample

namespace UserState

/-- The state before any event. -/
def initial (p : ExperimentPlan) : UserState := Progress.initial p

/-- **The state after one more event.** -/
def observe (p : ExperimentPlan) (s : UserState) (e : Event) : UserState :=
  Progress.observe MetricStep.contribution p s e

/-- The state after some events. -/
def afterEvents (p : ExperimentPlan) (es : List Event) : UserState :=
  Progress.afterEvents MetricStep.contribution p es

/-- The number of each metric. -/
def aggregate (p : ExperimentPlan) (s : UserState) : List Float :=
  List.zipWith MetricStep.aggregate p.metrics s.values

end UserState

end ExperimentQuery
