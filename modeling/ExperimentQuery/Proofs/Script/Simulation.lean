import ExperimentQuery.Proofs.Interpreter.Outcome
import ExperimentQuery.Proofs.Json.Same
import ExperimentQuery.Proofs.Script.Blocks

/-!
# Scripts and the interpreter agree on users

A script keeps flags and a queue where the interpreter keeps a phase and a backlog. Both see the
same users, capture the same events for each metric, and keep the same users, as long as the
variations are scalar values: a script compares arrays and objects by identity. That it runs without
an error is about its lists: a property whose parent is missing counts as missing here.

* `Simulates`: a state of a script stands for what the interpreter knows;
* `Simulates.step`: one more event preserves it;
* **`Runtime.reduce_agrees`**: the script and the interpreter agree on every user.
-/

namespace ExperimentQuery.Script

variable {rt : Runtime} {p : ExperimentPlan} {st : ReducerState} {e : Event}

/-! ## The simulation -/

/-- The state of a script stands for what is known of the user: the flags tell the phase, and the
queue is the backlog as long as events wait. -/
structure Simulates (p : ExperimentPlan) (st : ReducerState) (s : Progress Event) : Prop where
  inExperiment : st.inExperiment = !decide (s.phase = .notExposed)
  multipleVariants : st.multipleVariants = decide (s.phase = .multiVariant)
  activated : s.phase ≠ .multiVariant →
    st.activated = (p.activation.isSome && decide (s.phase = .active))
  pending : s.phase = .exposed → p.activation.isSome
  started : s.phase = .active → s.start.isSome
  start : st.start = s.start
  variation : s.phase ≠ .notExposed → st.variation = s.variation
  scalar : s.variation.all Json.isScalar
  queued : s.phase = .notExposed ∨ s.phase = .exposed →
    st.queued = s.backlog ∧ s.backlog.isSome = p.hasEarlyStart
  pushed : st.pushed = s.values
  length : s.values.length = p.metrics.length

variable {s : Progress Event}

theorem simulates_initial : Simulates p (.initial p) (.initial p) where
  inExperiment := rfl
  multipleVariants := rfl
  activated _ := by simp [ReducerState.initial, Progress.initial]
  pending h := by cases h
  started h := by cases h
  start := rfl
  variation h := absurd rfl h
  scalar := rfl
  queued _ := ⟨rfl, by unfold Progress.initial; cases p.hasEarlyStart <;> rfl⟩
  pushed := rfl
  length := by simp [Progress.initial]

namespace Simulates

theorem pushed_length (h : Simulates p st s) : st.pushed.length = p.metrics.length := by
  rw [h.pushed, h.length]

theorem enter (hrt : rt.Sound p) (h : Simulates p st s) (hphase : s.phase = .notExposed)
    (he : rt.isExposure e = true) (hscalar : (e.lookup? p.variationPath).all Json.isScalar) :
    ∃ st', rt.step p st e = some st' ∧ Simulates p st' (s.enter keepEvent p e) := by
  obtain ⟨hqueued, hbacklog⟩ := h.queued (.inl hphase)
  have hin : st.inExperiment = false := by simp [h.inExperiment, hphase]
  have hmulti : st.multipleVariants = false := by simp [h.multipleVariants, hphase]
  have hactivated : st.activated = false := by simp [h.activated, hphase]
  refine ⟨_, step_eq_enter hrt he hin (hqueued ▸ hbacklog) h.pushed_length, ?_⟩
  unfold Progress.enter
  by_cases hp : p.activation.isSome
  · rw [if_pos hp, if_pos hp]
    exact
      { inExperiment := rfl
        multipleVariants := hmulti
        activated := fun _ => by simpa [ReducerState.enter] using hactivated
        pending := fun _ => hp
        started := fun hs => by cases hs
        start := h.start
        variation := fun _ => rfl
        scalar := hscalar
        queued := fun _ => ⟨hqueued, hbacklog⟩
        pushed := h.pushed
        length := h.length }
  · rw [if_neg hp, if_neg hp]
    exact
      { inExperiment := rfl
        multipleVariants := hmulti
        activated := fun _ => by
          simpa [hp, ReducerState.activate, ReducerState.enter] using hactivated
        pending := fun hs => by cases hs
        started := fun _ => rfl
        start := rfl
        variation := fun _ => rfl
        scalar := hscalar
        queued := fun hs => by simp [Progress.activate] at hs
        pushed := by
          simp only [ReducerState.activate, ReducerState.enter, Progress.activate, hqueued,
            h.pushed]
        length := length_replay h.length MetricStep.isEarlyStart e.time _ }

theorem reexpose (hrt : rt.Sound p) (h : Simulates p st s)
    (hphase : s.phase = .exposed ∨ s.phase = .active)
    (he : rt.isExposure e = true) (hscalar : (e.lookup? p.variationPath).all Json.isScalar) :
    ∃ st', rt.step p st e = some st' ∧ Simulates p st' (s.reexpose p e) := by
  have hne : s.phase ≠ .notExposed := by rcases hphase with hs | hs <;> simp [hs]
  have hin : st.inExperiment = true := by simp [h.inExperiment, hne]
  have hdiffer : rt.differ st.variation (e.lookup? p.variationPath) =
      !sameProperty (e.lookup? p.variationPath) s.variation := by
    rw [h.variation hne, hrt.differ _ _ h.scalar hscalar, sameProperty_comm]
  refine ⟨_, step_eq_reexpose he hin, ?_⟩
  rw [hdiffer, Progress.reexpose]
  by_cases hsame : sameProperty (e.lookup? p.variationPath) s.variation
  · rw [if_pos hsame, hsame]
    exact h
  · rw [if_neg hsame, if_pos (by simpa using hsame)]
    exact
      { inExperiment := hin
        multipleVariants := rfl
        activated := fun hs => absurd rfl hs
        pending := fun hs => by cases hs
        started := fun hs => by cases hs
        start := h.start
        variation := fun _ => h.variation hne
        scalar := h.scalar
        queued := fun hs => by simp at hs
        pushed := h.pushed
        length := h.length }

theorem enqueue (h : Simulates p st s) (hphase : s.phase = .notExposed ∨ s.phase = .exposed) :
    Simulates p (st.enqueue e) (s.enqueue e) := by
  obtain ⟨hqueued, hbacklog⟩ := h.queued hphase
  exact
    { h with
      queued := fun _ => by
        rw [ReducerState.enqueue, Progress.enqueue, hqueued, Option.isSome_map]
        exact ⟨rfl, hbacklog⟩ }

theorem activate (h : Simulates p st s) (hphase : s.phase = .exposed) (time : Int) :
    Simulates p ({ st with activated := true }.activate p time) (s.activate keepEvent p time) := by
  obtain ⟨hqueued, hbacklog⟩ := h.queued (.inr hphase)
  exact
    { inExperiment := by simp [ReducerState.activate, h.inExperiment, hphase, Progress.activate]
      multipleVariants := by
        simp [ReducerState.activate, h.multipleVariants, hphase, Progress.activate]
      activated := fun _ => by simp [ReducerState.activate, Progress.activate, h.pending hphase]
      pending := fun hs => by cases hs
      started := fun _ => rfl
      start := rfl
      variation := fun _ => h.variation (by simp [hphase])
      scalar := h.scalar
      queued := fun hs => by simp [Progress.activate] at hs
      pushed := by
        simp only [ReducerState.activate, Progress.activate, hqueued, h.pushed]
      length := length_replay h.length MetricStep.isEarlyStart time _ }

theorem capture (h : Simulates p st s) {time : Int} (hstart : s.start = some time) :
    Simulates p (st.capture p (fun _ => true) time e) (s.capture keepEvent p e) := by
  simp only [Progress.capture, hstart]
  exact
    { h with
      started := fun _ => rfl
      start := h.start.trans hstart
      pushed := by rw [ReducerState.capture, h.pushed]
      length := length_captureFor h.length _ time e }

end Simulates

/-- **One more event** preserves the simulation. -/
theorem Simulates.step (hrt : rt.Sound p) (h : Simulates p st s) (e : Event)
    (hscalar : (e.lookup? p.variationPath).all Json.isScalar) :
    ∃ st', rt.step p st e = some st' ∧ Simulates p st' (s.observe keepEvent p e) := by
  unfold Progress.observe
  rw [← hrt.isExposure e]
  cases he : rt.isExposure e with
  | true =>
    rw [if_pos rfl, Progress.onExposure]
    cases hphase : s.phase with
    | notExposed => exact h.enter hrt hphase he hscalar
    | exposed => exact h.reexpose hrt (.inl hphase) he hscalar
    | active => exact h.reexpose hrt (.inr hphase) he hscalar
    | multiVariant =>
      refine ⟨_, step_eq_reexpose he (by simp [h.inExperiment, hphase]), ?_⟩
      have hmulti : st.multipleVariants = true := by simp [h.multipleVariants, hphase]
      have hst : { st with multipleVariants := true } = st := by rw [← hmulti]
      rw [hst, ite_self]
      exact h
  | false =>
    rw [if_neg Bool.false_ne_true, Progress.onEvent]
    cases hphase : s.phase with
    | notExposed =>
      obtain ⟨hqueued, hbacklog⟩ := h.queued (.inl hphase)
      exact ⟨_, step_eq_wait he (by simp [h.inExperiment, hphase]) (hqueued ▸ hbacklog),
        h.enqueue (.inl hphase)⟩
    | multiVariant =>
      exact ⟨_, step_eq_ignore he (by simp [h.inExperiment, hphase])
        (by simp [h.multipleVariants, hphase]), h⟩
    | exposed =>
      obtain ⟨hqueued, hbacklog⟩ := h.queued (.inr hphase)
      have hin : st.inExperiment = true := by simp [h.inExperiment, hphase]
      have hmulti : st.multipleVariants = false := by simp [h.multipleVariants, hphase]
      have hactivated : st.activated = false := by simp [h.activated, hphase]
      have hpending := h.pending hphase
      cases hact : p.activates e with
      | true =>
        rw [if_pos rfl]
        exact ⟨_, step_eq_activate hrt he hin hmulti hpending hactivated hact (hqueued ▸ hbacklog)
          h.pushed_length, (h.activate hphase e.time).capture rfl⟩
      | false =>
        rw [if_neg Bool.false_ne_true]
        exact ⟨_, step_eq_await hrt he hin hmulti hpending hactivated hact (hqueued ▸ hbacklog),
          h.enqueue (.inr hphase)⟩
    | active =>
      obtain ⟨time, hstart⟩ := Option.isSome_iff_exists.mp (h.started hphase)
      exact ⟨_, step_eq_capture hrt he (by simp [h.inExperiment, hphase])
        (by simp [h.multipleVariants, hphase]) (by simp [h.activated, hphase])
        (h.start.trans hstart) h.pushed_length, h.capture hstart⟩

/-- The reducer runs without an error and leads to a state that stands for what is known. -/
theorem simulates_reduce (hrt : rt.Sound p) {es : List Event}
    (hscalar : ∀ e ∈ es, (e.lookup? p.variationPath).all Json.isScalar) :
    ∃ st, rt.reduce p es = some st ∧ Simulates p st (Progress.afterEvents keepEvent p es) := by
  induction es using List.reverseRecOn with
  | nil => exact ⟨_, rfl, simulates_initial⟩
  | append_singleton es e ih =>
    obtain ⟨st, hreduce, hst⟩ := ih fun e he => hscalar e (List.mem_append_left _ he)
    obtain ⟨st', hstep, hst'⟩ := hst.step hrt e (hscalar e (by simp))
    refine ⟨st', ?_, ?_⟩
    · rw [Runtime.reduce, List.foldlM_append, ← Runtime.reduce, hreduce]
      simpa using hstep
    · rw [Progress.afterEvents_append_singleton]
      exact hst'

theorem Simulates.isKept_eq (h : Simulates p st s) : st.isKept p = s.isIncluded := by
  have hin := h.inExperiment
  have hmulti := h.multipleVariants
  unfold ReducerState.isKept userFilter Progress.isIncluded
  cases hphase : s.phase with
  | notExposed => simp [UserCheck.holds, hin, hphase]
  | multiVariant => simp [UserCheck.holds, hmulti, hphase]
  | exposed =>
    have hactivated : st.activated = false := by simp [h.activated, hphase]
    simp [UserCheck.holds, h.pending hphase, hactivated]
  | active =>
    have hactivated : st.activated = p.activation.isSome := by simp [h.activated, hphase]
    have hvariation : st.variation = s.variation := h.variation (by simp [hphase])
    rw [hphase] at hin hmulti
    by_cases hp : p.activation.isSome
    · simp [UserCheck.holds, hin, hmulti, hvariation, hactivated, hp]
    · simp [UserCheck.holds, hin, hmulti, hvariation, hp]

/-- The interpreter knows the same of a user whatever it keeps of the events. -/
theorem afterEvents_agree (p : ExperimentPlan) (es : List Event) :
    let s := UserState.afterEvents p es
    let t := Progress.afterEvents keepEvent p es
    s.phase = t.phase ∧ s.variation = t.variation ∧ s.start = t.start ∧
      s.values = List.zipWith (fun m es => es.map m.contribution) p.metrics t.values := by
  intro s t
  have hs : s = History.outcome p es MetricStep.contribution :=
    Progress.afterEvents_eq_outcome MetricStep.contribution p es
  have ht : t = History.outcome p es keepEvent := Progress.afterEvents_eq_outcome keepEvent p es
  rw [hs, ht]
  refine ⟨?_, ?_, ?_, ?_⟩
  · rw [History.phase_outcome, History.phase_outcome]
  · rw [History.variation_outcome, History.variation_outcome]
  · rw [History.start_outcome, History.start_outcome]
  · rw [History.values_outcome, History.values_outcome, List.zipWith_map_right, List.zipWith_self]
    refine List.map_congr_left fun m _ => ?_
    rw [List.map_id']

/-- **A script and the interpreter agree on every user**: the reducer finds every list that it adds
to, pushes the same events for each metric in the same order, has the same reference instant, and the
filter after it keeps the user exactly if the interpreter includes it. -/
theorem Runtime.reduce_agrees (hrt : rt.Sound p) {es : List Event}
    (hscalar : ∀ e ∈ es, (e.lookup? p.variationPath).all Json.isScalar) :
    ∃ st, rt.reduce p es = some st ∧
      st.pushed = (Progress.afterEvents keepEvent p es).values ∧
      (UserState.afterEvents p es).values =
        List.zipWith (fun m events => events.map m.contribution) p.metrics st.pushed ∧
      st.start = (UserState.afterEvents p es).start ∧
      st.isKept p = (UserState.afterEvents p es).isIncluded := by
  obtain ⟨st, hreduce, hst⟩ := simulates_reduce hrt hscalar
  obtain ⟨hphase, hvariation, hstart, hvalues⟩ := afterEvents_agree p es
  refine ⟨st, hreduce, hst.pushed, ?_, ?_, ?_⟩
  · rw [hvalues, hst.pushed]
  · rw [hstart, hst.start]
  · rw [hst.isKept_eq, Progress.isIncluded, Progress.isIncluded, hphase, hvariation]

/-- A plan with an activation and a metric that counts from an hour before it. -/
def gatedPlan : ExperimentPlan :=
  { experimentId := "checkout"
    start := ⟨0, 0⟩
    stop := ⟨864000, 0⟩
    selectors := ["open", "pay", "see"]
    exposure := ⟨"see", ["experiment"], "checkout", 0, 864000000⟩
    variationPath := ["variation"]
    userKey := none
    dimension := none
    activation := some ⟨"Open", ⟨["open"], []⟩⟩
    metrics := [
      { id := "paid"
        name := "Paid"
        kind := .count
        predicate := ⟨["pay"], []⟩
        value := .one
        window := [.elapsedAtLeast (-3600000)]
        delayMillis := -3600000
        aggregation := .sum
        cap := none
        aggregateFilter := none }] }

/-- A payment, the exposure, the activation and another payment. -/
def gatedEvents : List Event := [
  { name := "pay", time := 1000, distinctId := "u" },
  { name := "see", time := 2000, distinctId := "u",
    properties := [("experiment", .str "checkout"), ("variation", .int 1)] },
  { name := "open", time := 3000, distinctId := "u" },
  { name := "pay", time := 4000, distinctId := "u" }]

theorem reduce_agrees_gated :
    (∀ e ∈ gatedEvents, (e.lookup? gatedPlan.variationPath).all Json.isScalar) ∧
      ∃ st, (Runtime.ofPlan gatedPlan).reduce gatedPlan gatedEvents = some st ∧
        st.pushed = (Progress.afterEvents keepEvent gatedPlan gatedEvents).values ∧
        (UserState.afterEvents gatedPlan gatedEvents).values =
          List.zipWith (fun m events => events.map m.contribution) gatedPlan.metrics st.pushed ∧
        st.start = (UserState.afterEvents gatedPlan gatedEvents).start ∧
        st.isKept gatedPlan = (UserState.afterEvents gatedPlan gatedEvents).isIncluded := by
  have hscalar : ∀ e ∈ gatedEvents,
      (e.lookup? gatedPlan.variationPath).all Json.isScalar := by decide
  exact ⟨hscalar, Runtime.reduce_agrees (Runtime.ofPlan_sound gatedPlan) hscalar⟩

/-- Both payments are pushed, the first from the queue. -/
example : ((Runtime.ofPlan gatedPlan).reduce gatedPlan gatedEvents).map
    (fun st => (st.start, st.isKept gatedPlan, st.pushed.map fun events => events.map (·.time))) =
      some (some 3000, true, [[1000, 4000]]) := by
  decide +kernel

end ExperimentQuery.Script
