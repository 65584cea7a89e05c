import ExperimentQuery.Proofs.Interpreter.Capture
import ExperimentQuery.Proofs.Script.Meaning

/-!
# What a reducer does with one event

The body of the loop takes one of seven ways through its statements, and each is described by a
change of the state: the user enters, is seen again, waits, is left alone, awaits the activation,
is activated, or has an event captured.

* `ReducerState.enqueue`, `ReducerState.capture`, `ReducerState.activate`, `ReducerState.enter`: the
  changes;
* **`run_captures`**, `run_activation`, `run_firstExposure`: what the blocks of the loop do;
* `step_eq_enter`, `step_eq_reexpose`, `step_eq_wait`, `step_eq_ignore`, `step_eq_await`,
  `step_eq_activate`, `step_eq_capture`: the seven ways.
-/

namespace ExperimentQuery.Script

/-- What is kept of an event that a metric captures: the event. -/
abbrev keepEvent (_ : MetricStep) (e : Event) : Event := e

/-! ## Changes of the state -/

namespace ReducerState

variable (p : ExperimentPlan) (st : ReducerState)

/-- The state with an event in the queue, if there is one. -/
def enqueue (e : Event) : ReducerState := { st with queued := st.queued.map (· ++ [e]) }

/-- The state with an event captured for the metrics that `wants` selects. -/
def capture (wants : MetricStep → Bool) (time : Int) (e : Event) : ReducerState :=
  { st with pushed := captureFor keepEvent p.metrics wants time e st.pushed }

/-- The state with a reference instant and the queue replayed. -/
def activate (time : Int) : ReducerState :=
  { st with
    start := some time
    queued := st.queued.map fun _ => []
    pushed := (st.queued.getD []).foldl
      (fun values e => captureFor keepEvent p.metrics MetricStep.isEarlyStart time e values)
      st.pushed }

/-- The state with what is read from the first exposure. -/
def enter (e : Event) : ReducerState :=
  { st with
    inExperiment := true
    variation := e.lookup? p.variationPath
    dimension := if p.dimension.isSome then dimensionValue p e else st.dimension }

end ReducerState

variable {rt : Runtime} {p : ExperimentPlan}

/-! ## Capturing -/

theorem modify_length_append {α : Type} (front : List α) (a : α) (back : List α) (f : α → α) :
    (front ++ a :: back).modify front.length f = front ++ f a :: back := by
  induction front with
  | nil => rfl
  | cons b front ih => rw [List.cons_append, List.length_cons, List.modify_succ_cons, ih]; rfl

theorem run_capture (hrt : rt.Sound p) {m : MetricStep} {before : List (List Event)}
    (hm : p.metrics[before.length]? = some m) {st : ReducerState} {time : Int}
    (hstart : st.start = some time) (e : Event) (vs : List Event) (values : List (List Event)) :
    stmtsRun rt p (capture (before.length, m)) e { st with pushed := before ++ vs :: values } =
      .done { st with
        pushed := before ++ (if m.counts time e then vs ++ [e] else vs) :: values } := by
  have hcheck : (Check.captures before.length).holds rt p e
      { st with pushed := before ++ vs :: values } = m.counts time e := by
    rw [Check.holds, hrt.isMetric _ _ hm, hrt.inWindow _ _ hm, hstart, Option.getD_some,
      MetricStep.counts]
  rw [capture, stmtsRun_cons, run_comment, Ending.andThen_done, stmtsRun_cons, run_when, hcheck]
  by_cases hc : m.counts time e
  · simp [hc, stmtsRun_cons, Action.run, modify_length_append]
  · simp [hc]

/-- The code of the metrics from some position on extends the lists from there on. -/
theorem run_captures_from (hrt : rt.Sound p) (wants : MetricStep → Bool) {st : ReducerState}
    {time : Int} (hstart : st.start = some time) (e : Event) (ms : List MetricStep)
    (before values : List (List Event))
    (hms : ∀ j m, ms[j]? = some m → p.metrics[before.length + j]? = some m)
    (hlen : values.length = ms.length) :
    stmtsRun rt p
        ((((List.range' before.length ms.length).zip ms).filter fun q => wants q.2).flatMap capture)
        e { st with pushed := before ++ values } =
      .done { st with pushed := before ++ captureFor keepEvent ms wants time e values } := by
  induction ms generalizing before values with
  | nil =>
    rw [List.length_nil, List.length_eq_zero_iff] at hlen
    simp [hlen, captureFor]
  | cons m ms ih =>
    obtain ⟨vs, values, rfl⟩ := List.exists_cons_of_length_eq_add_one hlen
    have hm : p.metrics[before.length]? = some m := hms 0 m rfl
    have hrest : ∀ vs', stmtsRun rt p
        ((((List.range' (before.length + 1) ms.length).zip ms).filter fun q => wants q.2).flatMap
          capture) e { st with pushed := before ++ vs' :: values } =
        .done { st with
          pushed := before ++ vs' :: captureFor keepEvent ms wants time e values } := by
      intro vs'
      have h := ih (before ++ [vs']) values (fun j m' hj => by
        rw [List.length_append, List.length_singleton, Nat.add_assoc, Nat.add_comm 1]
        exact hms (j + 1) m' hj) (by simpa using hlen)
      simpa using h
    rw [List.length_cons, List.range'_succ, List.zip_cons_cons, List.filter_cons]
    by_cases hw : wants m
    · rw [if_pos hw, List.flatMap_cons, stmtsRun_append, run_capture hrt hm hstart,
        Ending.andThen_done, hrest]
      simp [captureFor, hw, MetricStep.counts]
    · rw [if_neg hw, hrest]
      simp [captureFor, hw]

/-- **The code of the metrics** captures the event for those that are written out. -/
theorem run_captures (hrt : rt.Sound p) (wants : MetricStep → Bool) {st : ReducerState}
    {time : Int} (hstart : st.start = some time) (e : Event)
    (hlen : st.pushed.length = p.metrics.length) :
    stmtsRun rt p (((indexed p).filter fun q => wants q.2).flatMap capture) e st =
      .done (st.capture p wants time e) := by
  have h := run_captures_from hrt wants hstart e p.metrics [] st.pushed (by simp) hlen
  rw [indexed, List.range_eq_range']
  exact h

/-! ## Blocks of the loop -/

variable {st : ReducerState} {e : Event}

theorem run_queueIfEarly (hq : st.queued.isSome = p.hasEarlyStart) :
    stmtsRun rt p (queueIfEarly p) e st = .done (st.enqueue e) := by
  unfold queueIfEarly
  cases hqueued : st.queued with
  | none =>
    rw [hqueued, Option.isSome_none] at hq
    have hst : { st with queued := none } = st := by rw [← hqueued]
    simp [← hq, ReducerState.enqueue, hqueued, hst]
  | some events =>
    rw [hqueued, Option.isSome_some] at hq
    simp [← hq, stmtsRun_cons, Action.run, ReducerState.enqueue, hqueued]

theorem foldl_capture (wants : MetricStep → Bool) (time : Int) (queue : List Event)
    (st : ReducerState) :
    queue.foldl (fun st e => st.capture p wants time e) st =
      { st with
        pushed := queue.foldl
          (fun values e => captureFor keepEvent p.metrics wants time e values) st.pushed } := by
  induction queue generalizing st with
  | nil => rfl
  | cons e queue ih => rw [List.foldl_cons, ih]; rfl

theorem replay_captures (hrt : rt.Sound p) (wants : MetricStep → Bool) (st : ReducerState)
    {time : Int} (hstart : st.start = some time) (hlen : st.pushed.length = p.metrics.length)
    (queue : List Event) :
    replay (stmtsRun rt p (((indexed p).filter fun q => wants q.2).flatMap capture)) queue st =
      .done (queue.foldl (fun st e => st.capture p wants time e) st) := by
  refine replay_of_done
    (P := fun st => st.start = some time ∧ st.pushed.length = p.metrics.length)
    (fun e st h => ⟨run_captures hrt wants h.1 e h.2, h.1, ?_⟩) queue ⟨hstart, hlen⟩
  exact length_captureFor h.2 wants time e

/-- The activation sets the reference instant and replays the queue. -/
theorem run_activation (hrt : rt.Sound p) (hq : st.queued.isSome = p.hasEarlyStart)
    (hlen : st.pushed.length = p.metrics.length) :
    stmtsRun rt p (activation p) e st =
      .done ({ st with activated := p.activation.isSome || st.activated }.activate p e.time) := by
  have hmark : stmtsRun rt p (if p.activation.isSome then [.act .markActivated] else []) e st =
      .done { st with activated := p.activation.isSome || st.activated } := by
    cases p.activation <;> rfl
  rw [activation, stmtsRun_append, hmark, Ending.andThen_done, stmtsRun_cons, run_act, Action.run,
    Ending.andThen_done, replayQueue, ReducerState.activate]
  cases hqueued : st.queued with
  | none =>
    rw [hqueued, Option.isSome_none] at hq
    simp [← hq]
  | some events =>
    rw [hqueued, Option.isSome_some] at hq
    have hreplay := replay_captures hrt MetricStep.isEarlyStart
      { st with
        activated := p.activation.isSome || st.activated
        start := some e.time
        queued := some events } rfl hlen events
    rw [foldl_capture] at hreplay
    simp [← hq, stmtsRun_cons, Stmt.run, hreplay, Action.run]

theorem run_firstExposure (hrt : rt.Sound p) (hq : st.queued.isSome = p.hasEarlyStart)
    (hlen : st.pushed.length = p.metrics.length) :
    stmtsRun rt p (firstExposure p) e st =
      .next (if p.activation.isSome then st.enter p e else (st.enter p e).activate p e.time) := by
  have henter : stmtsRun rt p
      ([.act .enter, .act .takeVariation] ++
        if p.dimension.isSome then [.act .takeDimension] else []) e st =
      .done (st.enter p e) := by
    rw [ReducerState.enter]
    cases p.dimension <;> rfl
  rw [firstExposure, stmtsRun_append, stmtsRun_append, henter, Ending.andThen_done]
  cases hp : p.activation with
  | some a => rfl
  | none =>
    have hact : stmtsRun rt p (activation p) e (st.enter p e) = _ := run_activation hrt hq hlen
    rw [Option.isNone_none, if_pos rfl, hact, hp]
    rfl

/-! ## One event -/

theorem step_eq_enter (hrt : rt.Sound p) (he : rt.isExposure e = true)
    (hin : st.inExperiment = false) (hq : st.queued.isSome = p.hasEarlyStart)
    (hlen : st.pushed.length = p.metrics.length) :
    rt.step p st e =
      some (if p.activation.isSome then st.enter p e else (st.enter p e).activate p e.time) := by
  simp [Runtime.step, loopBody, stmtsRun_cons, Check.holds, he, hin,
    run_firstExposure hrt hq hlen, Ending.state?]

theorem step_eq_reexpose (he : rt.isExposure e = true) (hin : st.inExperiment = true) :
    rt.step p st e = some
      (if rt.differ st.variation (e.lookup? p.variationPath) then
        { st with multipleVariants := true } else st) := by
  by_cases hv : rt.differ st.variation (e.lookup? p.variationPath)
  · simp [Runtime.step, loopBody, stmtsRun_cons, Check.holds, he, hin, hv, Action.run,
      Ending.state?]
  · simp [Runtime.step, loopBody, stmtsRun_cons, Check.holds, he, hin, hv, Action.run,
      Ending.state?]

theorem step_eq_wait (he : rt.isExposure e = false) (hin : st.inExperiment = false)
    (hq : st.queued.isSome = p.hasEarlyStart) :
    rt.step p st e = some (st.enqueue e) := by
  simp [Runtime.step, loopBody, stmtsRun_cons, Check.holds, he, hin, stmtsRun_append,
    run_queueIfEarly hq, Action.run, Ending.state?]

theorem step_eq_ignore (he : rt.isExposure e = false) (hin : st.inExperiment = true)
    (hmulti : st.multipleVariants = true) : rt.step p st e = some st := by
  simp [Runtime.step, loopBody, stmtsRun_cons, Check.holds, he, hin, hmulti, Action.run,
    Ending.state?]

/-- A user in one variation awaits the activation or has events captured. -/
theorem step_of_single (he : rt.isExposure e = false) (hin : st.inExperiment = true)
    (hmulti : st.multipleVariants = false) :
    rt.step p st e =
      (stmtsRun rt p (awaitActivation p ++ (indexed p).flatMap Script.capture) e st).state? := by
  simp [Runtime.step, loopBody, stmtsRun_cons, Check.holds, he, hin, hmulti]

theorem step_eq_await (hrt : rt.Sound p) (he : rt.isExposure e = false)
    (hin : st.inExperiment = true) (hmulti : st.multipleVariants = false)
    (hpending : p.activation.isSome) (hactivated : st.activated = false)
    (hact : p.activates e = false) (hq : st.queued.isSome = p.hasEarlyStart) :
    rt.step p st e = some (st.enqueue e) := by
  obtain ⟨a, ha⟩ := Option.isSome_iff_exists.mp hpending
  have hcheck : rt.isActivation e = false := by
    rw [hrt.isActivation a ha, ← hact, ExperimentPlan.activates, ha, Option.any_some]
  rw [step_of_single he hin hmulti, awaitActivation, ha]
  simp [stmtsRun_cons, stmtsRun_append, Check.holds, hactivated, hcheck, run_queueIfEarly hq,
    Action.run, Ending.state?]

theorem run_all_captures (hrt : rt.Sound p) {time : Int} (hstart : st.start = some time)
    (hlen : st.pushed.length = p.metrics.length) :
    stmtsRun rt p ((indexed p).flatMap Script.capture) e st =
      .done (st.capture p (fun _ => true) time e) := by
  have h := run_captures hrt (fun _ => true) hstart e hlen
  rwa [List.filter_eq_self.mpr fun _ _ => rfl] at h

theorem step_eq_activate (hrt : rt.Sound p) (he : rt.isExposure e = false)
    (hin : st.inExperiment = true) (hmulti : st.multipleVariants = false)
    (hpending : p.activation.isSome) (hactivated : st.activated = false)
    (hact : p.activates e = true) (hq : st.queued.isSome = p.hasEarlyStart)
    (hlen : st.pushed.length = p.metrics.length) :
    rt.step p st e = some
      (({ st with activated := true }.activate p e.time).capture p (fun _ => true) e.time e) := by
  obtain ⟨a, ha⟩ := Option.isSome_iff_exists.mp hpending
  have hcheck : rt.isActivation e = true := by
    rw [hrt.isActivation a ha, ← hact, ExperimentPlan.activates, ha, Option.any_some]
  have hrun : stmtsRun rt p (awaitActivation p) e st =
      .done ({ st with activated := true }.activate p e.time) := by
    rw [awaitActivation, ha]
    simp [stmtsRun_cons, Check.holds, hactivated, hcheck, run_activation hrt hq hlen, ha]
  rw [step_of_single he hin hmulti, stmtsRun_append, hrun, Ending.andThen_done,
    run_all_captures hrt, Ending.state?]
  · rfl
  · exact length_replay hlen MetricStep.isEarlyStart e.time _

theorem step_eq_capture (hrt : rt.Sound p) (he : rt.isExposure e = false)
    (hin : st.inExperiment = true) (hmulti : st.multipleVariants = false)
    (hactivated : st.activated = p.activation.isSome) {time : Int} (hstart : st.start = some time)
    (hlen : st.pushed.length = p.metrics.length) :
    rt.step p st e = some (st.capture p (fun _ => true) time e) := by
  have hrun : stmtsRun rt p (awaitActivation p) e st = .done st := by
    unfold awaitActivation
    cases ha : p.activation with
    | none => rw [stmtsRun_nil]
    | some a =>
      rw [ha, Option.isSome_some] at hactivated
      simp [stmtsRun_cons, Check.holds, hactivated]
  rw [step_of_single he hin hmulti, stmtsRun_append, hrun, Ending.andThen_done,
    run_all_captures hrt hstart hlen, Ending.state?]

end ExperimentQuery.Script
