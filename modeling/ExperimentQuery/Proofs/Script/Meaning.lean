import ExperimentQuery.Script.Reducer
import ExperimentQuery.Interpreter.UserState

/-!
# What a reducer does

The statements of a reducer are run on a state of flags and lists. What the functions that a
script calls decide, and what its operators decide about values, is a parameter here.

Statements fail for want of a list, or when a function goes on with the next event. Expressions do
not fail here: a property whose parent is missing is missing as well, where a script ends with an
error.

* `Runtime`, `Runtime.Sound`: the tests of a script, and that they decide as the plan does;
* `ReducerState`: the state of one user;
* `Action.run`, `Stmt.run`, `stmtsRun`: what a statement does to it;
* **`Runtime.reduce`**: the reducer over a user's events;
* `ReducerState.isKept`: whether the filter after it keeps the user.
-/

namespace ExperimentQuery

/-- Whether a value is neither an array nor an object. -/
def Json.isScalar : Json → Bool
  | arr _ | obj _ => false
  | _ => true

/-- Whether a value counts as true. -/
def Json.isTruthy : Json → Bool
  | null | bool false | int 0 | str "" | flaw => false
  | float x => !(x == 0.0 || x.isNaN)
  | _ => true

namespace Script

/-! ## Tests -/

/-- What the tests of a script decide. -/
structure Runtime where
  isExposure : Event → Bool
  isActivation : Event → Bool
  /-- The function of a metric. -/
  isMetric : Nat → Event → Bool
  /-- The window of a metric, for the time of an event and a reference instant. -/
  inWindow : Nat → Int → Int → Bool
  /-- Whether two properties are not strictly equal. -/
  differ : Option Json → Option Json → Bool

/-- The tests decide as the plan does, and scalar values are compared by what they are. A whole
number and a double are then different values: `1` and `1.0` differ, which are one number in a
script. -/
structure Runtime.Sound (rt : Runtime) (p : ExperimentPlan) : Prop where
  isExposure : ∀ e, rt.isExposure e = p.exposure.accepts e
  isActivation : ∀ a, p.activation = some a → ∀ e, rt.isActivation e = a.predicate.accepts e
  isMetric : ∀ i m, p.metrics[i]? = some m → ∀ e, rt.isMetric i e = m.predicate.accepts e
  inWindow : ∀ i m, p.metrics[i]? = some m →
    ∀ time start, rt.inWindow i time start = m.inWindow time start
  differ : ∀ v w : Option Json, v.all Json.isScalar → w.all Json.isScalar →
    rt.differ v w = !sameProperty v w

/-- The tests of a plan; values that are not scalar are never strictly equal. -/
def Runtime.ofPlan (p : ExperimentPlan) : Runtime where
  isExposure := p.exposure.accepts
  isActivation := p.activates
  isMetric i e := (p.metrics[i]?).any (·.predicate.accepts e)
  inWindow i time start := (p.metrics[i]?).any (·.inWindow time start)
  differ v w := !(v.all Json.isScalar && w.all Json.isScalar && sameProperty v w)

theorem Runtime.ofPlan_sound (p : ExperimentPlan) : (Runtime.ofPlan p).Sound p where
  isExposure _ := rfl
  isActivation a ha e := by simp [ofPlan, ExperimentPlan.activates, ha]
  isMetric i m hm e := by simp [ofPlan, hm]
  inWindow i m hm time start := by simp [ofPlan, hm]
  differ v w hv hw := by simp [ofPlan, hv, hw]

/-! ## States -/

/-- The state of a user in a script, the events being kept whose values the lists hold. A property
that is not there is missing, and so is a list that the script does not begin with. -/
structure ReducerState where
  inExperiment : Bool
  multipleVariants : Bool
  activated : Bool
  variation : Option Json
  dimension : Option Json
  start : Option Int
  queued : Option (List Event)
  pushed : List (List Event)

/-- The state before any event. -/
def ReducerState.initial (p : ExperimentPlan) : ReducerState :=
  { inExperiment := false
    multipleVariants := false
    activated := false
    variation := some .null
    dimension := some .null
    start := none
    queued := if p.hasEarlyStart then some [] else none
    pushed := p.metrics.map fun _ => [] }

/-- How statements end: after the last one, by going on with the next event, or by an error. -/
inductive Ending where
  | done (st : ReducerState)
  | next (st : ReducerState)
  | failed

namespace Ending

/-- What follows runs only after the last statement. -/
def andThen : Ending → (ReducerState → Ending) → Ending
  | done st, f => f st
  | r, _ => r

/-- The state that the next event meets, if there was no error. -/
def state? : Ending → Option ReducerState
  | done st | next st => some st
  | failed => none

@[simp]
theorem andThen_done (st : ReducerState) (f : ReducerState → Ending) :
    (done st).andThen f = f st := rfl

@[simp]
theorem andThen_next (st : ReducerState) (f : ReducerState → Ending) :
    (next st).andThen f = next st := rfl

theorem andThen_assoc (r : Ending) (f g : ReducerState → Ending) :
    (r.andThen f).andThen g = r.andThen fun st => (f st).andThen g := by
  cases r <;> rfl

end Ending

/-! ## Statements -/

/-- Whether a condition holds. A reference instant that is not set counts as zero. -/
def Check.holds (rt : Runtime) (p : ExperimentPlan) (e : Event) (st : ReducerState) : Check → Bool
  | isExposure => rt.isExposure e
  | notInExperiment => !st.inExperiment
  | otherVariation => rt.differ st.variation (e.lookup? p.variationPath)
  | multipleVariants => st.multipleVariants
  | notActivated => !st.activated
  | notActivation => !rt.isActivation e
  | captures i => rt.isMetric i e && rt.inWindow i e.time (st.start.getD 0)

/-- The dimension of an event; whatever does not count as true is `null`, and so is a property whose
parent is missing. -/
def dimensionValue (p : ExperimentPlan) (e : Event) : Option Json :=
  let value := e.lookup? ((p.dimension.map (·.path)).getD [])
  if value.any Json.isTruthy then value else some .null

/-- What a step does. Only a list that is there can be added to. A property is read without an error
even if its parent is missing. -/
def Action.run (p : ExperimentPlan) (e : Event) (st : ReducerState) : Action → Ending
  | enter => .done { st with inExperiment := true }
  | takeVariation => .done { st with variation := e.lookup? p.variationPath }
  | takeDimension => .done { st with dimension := dimensionValue p e }
  | markMultiple => .done { st with multipleVariants := true }
  | markActivated => .done { st with activated := true }
  | start => .done { st with start := some e.time }
  | queue =>
    match st.queued with
    | some events => .done { st with queued := some (events ++ [e]) }
    | none => .failed
  | clearQueue => .done { st with queued := some [] }
  | push i =>
    if i < st.pushed.length then .done { st with pushed := st.pushed.modify i (· ++ [e]) }
    else .failed
  | next => .next st

/-- Run a body for each event of a queue; the body of a function cannot go on with the next event
of the loop. -/
def replay (body : Event → ReducerState → Ending) (queue : List Event) (st : ReducerState) :
    Ending :=
  queue.foldl (fun r e => r.andThen fun st =>
    match body e st with
    | .done st => .done st
    | _ => .failed) (.done st)

mutual

/-- What a statement does. -/
def Stmt.run (rt : Runtime) (p : ExperimentPlan) : Stmt → Event → ReducerState → Ending
  | .comment _, _, st => .done st
  | .act a, e, st => a.run p e st
  | .when c body, e, st => if c.holds rt p e st then stmtsRun rt p body e st else .done st
  | .replay body, _, st =>
    match st.queued with
    | some queue => replay (stmtsRun rt p body) queue st
    | none => .failed

/-- What some statements do. -/
def stmtsRun (rt : Runtime) (p : ExperimentPlan) : List Stmt → Event → ReducerState → Ending
  | [], _, st => .done st
  | s :: ss, e, st => (s.run rt p e st).andThen fun st => stmtsRun rt p ss e st

end

/-! ## The reducer -/

/-- The state after one more event, unless there is an error. -/
def Runtime.step (rt : Runtime) (p : ExperimentPlan) (st : ReducerState) (e : Event) :
    Option ReducerState :=
  (stmtsRun rt p (loopBody p) e st).state?

/-- **The state after a user's events**, unless there is an error. -/
def Runtime.reduce (rt : Runtime) (p : ExperimentPlan) (es : List Event) : Option ReducerState :=
  es.foldlM (rt.step p) (.initial p)

/-- Whether a reason leaves out a user. -/
def UserCheck.holds (st : ReducerState) : UserCheck → Bool
  | notInExperiment => !st.inExperiment
  | multipleVariants => st.multipleVariants
  | noVariation => !hasValue st.variation
  | notActivated => !st.activated

/-- Whether the filter keeps the user. -/
def ReducerState.isKept (p : ExperimentPlan) (st : ReducerState) : Bool :=
  (userFilter p).all fun c => !c.holds st

/-! ## Running blocks -/

variable (rt : Runtime) (p : ExperimentPlan) (e : Event) (st : ReducerState)

@[simp]
theorem stmtsRun_nil : stmtsRun rt p [] e st = .done st := by
  rw [stmtsRun]

theorem stmtsRun_cons (s : Stmt) (ss : List Stmt) :
    stmtsRun rt p (s :: ss) e st =
      (s.run rt p e st).andThen fun st => stmtsRun rt p ss e st := by
  rw [stmtsRun]

theorem stmtsRun_append (ss ts : List Stmt) :
    stmtsRun rt p (ss ++ ts) e st =
      (stmtsRun rt p ss e st).andThen fun st => stmtsRun rt p ts e st := by
  induction ss generalizing st with
  | nil => simp
  | cons s ss ih => simp only [List.cons_append, stmtsRun_cons, ih, Ending.andThen_assoc]

@[simp]
theorem run_comment (text : String) : (Stmt.comment text).run rt p e st = .done st := by
  rw [Stmt.run]

@[simp]
theorem run_act (a : Action) : (Stmt.act a).run rt p e st = a.run p e st := by
  rw [Stmt.run]

@[simp]
theorem run_when (c : Check) (body : List Stmt) :
    (Stmt.when c body).run rt p e st =
      if c.holds rt p e st then stmtsRun rt p body e st else .done st := by
  rw [Stmt.run]

/-- A body that always ends after its last statement is run event by event. -/
theorem replay_of_done {body : Event → ReducerState → Ending}
    {f : ReducerState → Event → ReducerState} {P : ReducerState → Prop}
    (hbody : ∀ e st, P st → body e st = .done (f st e) ∧ P (f st e)) (queue : List Event)
    {st : ReducerState} (hst : P st) :
    replay body queue st = .done (queue.foldl f st) := by
  unfold replay
  induction queue generalizing st with
  | nil => rfl
  | cons e queue ih =>
    obtain ⟨hdone, hP⟩ := hbody e st hst
    rw [List.foldl_cons, List.foldl_cons, Ending.andThen_done, hdone]
    exact ih hP

end Script

end ExperimentQuery
