import ExperimentQuery.Proofs.Interpreter.History
import Mathlib.Data.List.Induction

/-!
# The state a history leads to

The three moments of a history fix the whole state of the user: the phase, what was read from the
entry, the reference instant, and the values of every metric, whatever is kept of an event. The
backlog needs no history of its own: it holds the events that are no exposures.

* `History.outcome`: what the moments say of the user;
* `History.outcome_append_singleton`: one more event leads from outcome to outcome;
* **`Progress.afterEvents_eq_outcome`**: observing the events one by one leads to the outcome;
* **`UserState.afterEvents_history`**: the same of the numbers, read off the moments.
-/

namespace ExperimentQuery

namespace History

/-- **What a history says of the user.** -/
def outcome {α : Type} (p : ExperimentPlan) (es : List Event) (read : MetricStep → Event → α) :
    Progress α :=
  let values := p.metrics.map fun m => (captures p es m).map (read m)
  match exposure? p es with
  | none =>
    { phase := .notExposed
      variation := none
      dimension := none
      start := none
      values := values
      backlog := if p.hasEarlyStart then some (waiting p es) else none }
  | some x =>
    { phase := phase p es x
      variation := x.event.lookup? p.variationPath
      dimension := p.dimension.bind (·.eval x.event)
      start := (start? p es x).map (·.event.time)
      values := values
      backlog :=
        if p.hasEarlyStart && phase p es x = .exposed then some (waiting p es) else none }

section

variable {p : ExperimentPlan} {es : List Event} {e : Event} {x : Moment} {α : Type}
  {read : MetricStep → Event → α}

/-! ## The parts of an outcome -/

theorem phase_outcome :
    (outcome p es read).phase = (exposure? p es).elim .notExposed (phase p es) := by
  unfold outcome
  cases exposure? p es <;> rfl

theorem variation_outcome :
    (outcome p es read).variation = (exposure? p es).bind (·.event.lookup? p.variationPath) := by
  unfold outcome
  cases exposure? p es <;> rfl

theorem dimension_outcome :
    (outcome p es read).dimension =
      (exposure? p es).bind fun x => p.dimension.bind (·.eval x.event) := by
  unfold outcome
  cases exposure? p es <;> rfl

theorem start_outcome :
    (outcome p es read).start =
      (exposure? p es).bind fun x => (start? p es x).map (·.event.time) := by
  unfold outcome
  cases exposure? p es <;> rfl

theorem values_outcome :
    (outcome p es read).values = p.metrics.map fun m => (captures p es m).map (read m) := by
  unfold outcome
  cases exposure? p es <;> rfl

/-! ## One more event -/

/-- Replaying the events that wait, which are kept only if some metric's window opens early. -/
theorem replay_waiting (time : Int) (queue : List Event) :
    ((if p.hasEarlyStart then some queue else none).getD []).foldl
        (fun values e => captureFor read p.metrics MetricStep.isEarlyStart time e values)
        (p.metrics.map fun _ => []) =
      p.metrics.map fun m =>
        (queue.filter fun e => m.isEarlyStart && m.counts time e).map (read m) := by
  rw [replay_map]
  refine List.map_congr_left fun m hm => ?_
  rw [List.nil_append]
  by_cases hearly : p.hasEarlyStart
  · rw [if_pos hearly, Option.getD_some]
  · have hm : m.isEarlyStart = false := by
      simp only [ExperimentPlan.hasEarlyStart, List.any_eq_true, not_exists, not_and] at hearly
      simpa using hearly m hm
    simp [hm, hearly]

theorem outcome_of_none (hx : exposure? p es = none) :
    outcome p es read =
      { Progress.initial p with
        backlog := if p.hasEarlyStart then some (waiting p es) else none } := by
  simp [outcome, captures, hx, Progress.initial]

theorem outcome_append_wait (hx : exposure? p es = none) (he : p.exposure.accepts e = false) :
    outcome p (es ++ [e]) read = (outcome p es read).observe read p e := by
  have hx' : exposure? p (es ++ [e]) = none := by simp [exposure?_append_singleton, hx, he]
  rw [outcome_of_none hx, outcome_of_none hx', waiting_append_singleton]
  simp only [Progress.observe, he, Progress.onEvent, Progress.initial, Progress.enqueue,
    Bool.false_eq_true, if_false]
  split_ifs <;> rfl

theorem outcome_append_enter (hx : exposure? p es = none) (he : p.exposure.accepts e = true) :
    outcome p (es ++ [e]) read = (outcome p es read).observe read p e := by
  have hx' : exposure? p (es ++ [e]) = some ⟨es.length, e⟩ := by
    simp [exposure?_append_singleton, hx, he]
  rw [outcome_of_none hx]
  simp only [Progress.observe, he, if_true, Progress.onExposure, Progress.initial, Progress.enter,
    outcome, captures, hx', phase, conflict?_last, start?_last]
  cases hp : p.activation with
  | none =>
    simp only [Option.isNone_none, Option.isSome_none, Option.isSome_some, Bool.false_eq_true,
      if_true, if_false, Option.elim_some, Option.map_some, capturesFrom_last he, Progress.activate,
      replay_waiting]
    simp
  | some a => simp [he]

theorem outcome_append_conflict (hx : exposure? p es = some x) {c : Moment}
    (hc : conflict? p es x = some c) :
    outcome p (es ++ [e]) read = (outcome p es read).observe read p e := by
  have hmem := mem_moments_of_exposure? hx
  have hc' : conflict? p (es ++ [e]) x = some c := by
    rw [conflict?_append_singleton hmem, hc, Option.some_or]
  have ha' : start? p (es ++ [e]) x = start? p es x := by
    simp [start?_append_singleton hmem, hc]
  have hs : (outcome p es read).observe read p e = outcome p es read := by
    simp [Progress.observe, Progress.onExposure, Progress.onEvent, outcome, hx, phase, hc]
  rw [hs]
  simp [outcome, captures, hx, exposure?_append_of_some hx, phase, hc, hc', ha',
    capturesFrom_append_singleton hmem]

theorem outcome_append_exposure (hx : exposure? p es = some x) (hc : conflict? p es x = none)
    (he : p.exposure.accepts e = true) :
    outcome p (es ++ [e]) read = (outcome p es read).observe read p e := by
  have hmem := mem_moments_of_exposure? hx
  have hc' := conflict?_append_singleton (p := p) (e := e) hmem
  have ha' : start? p (es ++ [e]) x = start? p es x := by
    simp [start?_append_singleton hmem, he]
  have hs : (outcome p es read).observe read p e = (outcome p es read).reexpose p e := by
    cases ha : start? p es x <;>
      simp [Progress.observe, he, Progress.onExposure, outcome, hx, phase, hc, ha]
  rw [hs]
  cases hv : sameProperty (e.lookup? p.variationPath) (x.event.lookup? p.variationPath) <;>
    simp [Progress.reexpose, outcome, captures, hx, exposure?_append_of_some hx, phase, hc, hc',
      ha', conflicts, he, hv, capturesFrom_append_singleton hmem]

theorem outcome_of_exposed (hx : exposure? p es = some x) (hc : conflict? p es x = none)
    (ha : start? p es x = none) :
    outcome p es read =
      { phase := .exposed
        variation := x.event.lookup? p.variationPath
        dimension := p.dimension.bind (·.eval x.event)
        start := none
        values := p.metrics.map fun _ => []
        backlog := if p.hasEarlyStart then some (waiting p es) else none } := by
  simp [outcome, captures, hx, phase, hc, ha]

theorem outcome_of_active (hx : exposure? p es = some x) (hc : conflict? p es x = none) {a : Moment}
    (ha : start? p es x = some a) :
    outcome p es read =
      { phase := .active
        variation := x.event.lookup? p.variationPath
        dimension := p.dimension.bind (·.eval x.event)
        start := some a.event.time
        values := p.metrics.map fun m => (capturesFrom p es x a m).map (read m)
        backlog := none } := by
  simp [outcome, captures, hx, phase, hc, ha]

theorem outcome_append_capture (hx : exposure? p es = some x) (hc : conflict? p es x = none)
    {a : Moment} (ha : start? p es x = some a) (he : p.exposure.accepts e = false) :
    outcome p (es ++ [e]) read = (outcome p es read).observe read p e := by
  have hmem := mem_moments_of_exposure? hx
  have hle := (position_lt_of_mem_moments (start?_mem hmem ha)).le
  have hc' : conflict? p (es ++ [e]) x = none := by
    simp [conflict?_append_singleton hmem, hc, conflicts, he]
  have ha' : start? p (es ++ [e]) x = some a := by
    rw [start?_append_singleton hmem, ha, Option.some_or]
  rw [outcome_of_active (exposure?_append_of_some hx) hc' ha', outcome_of_active hx hc ha]
  simp only [Progress.observe, he, Progress.onEvent, Progress.capture, Bool.false_eq_true,
    if_false, captureFor_map]
  congr 1
  refine List.map_congr_left fun m _ => ?_
  rw [capturesFrom_append_singleton hmem, List.map_append]
  simp only [hc, he, hle, Option.isNone_none, Bool.not_false, decide_true, Bool.true_or,
    Bool.true_and]
  split_ifs <;> rfl

theorem outcome_append_await (hx : exposure? p es = some x) (hc : conflict? p es x = none)
    (ha : start? p es x = none) (he : p.exposure.accepts e = false) :
    outcome p (es ++ [e]) read = (outcome p es read).observe read p e := by
  have hmem := mem_moments_of_exposure? hx
  have hc' : conflict? p (es ++ [e]) x = none := by
    simp [conflict?_append_singleton hmem, hc, conflicts, he]
  have ha' : start? p (es ++ [e]) x = if p.activates e then some ⟨es.length, e⟩ else none := by
    simp [start?_append_singleton hmem, ha, hc, he]
  rw [outcome_of_exposed hx hc ha]
  simp only [Progress.observe, he, Progress.onEvent, Bool.false_eq_true, if_false]
  by_cases hact : p.activates e
  · rw [if_pos hact] at ha' ⊢
    have hlast : ∀ q ∈ moments es, (⟨es.length, e⟩ : Moment).position ≤ q.position →
        p.exposure.accepts q.event := fun q hq hle =>
      absurd (position_lt_of_mem_moments hq) (Nat.not_lt.mpr hle)
    rw [outcome_of_active (exposure?_append_of_some hx) hc' ha']
    simp only [Progress.activate, Progress.capture, replay_waiting, captureFor_map]
    congr 1
    refine List.map_congr_left fun m _ => ?_
    rw [capturesFrom_append_singleton hmem, capturesFrom_of_start_last hc hlast, List.map_append]
    simp only [hc, he, le_refl, Option.isNone_none, Bool.not_false, decide_true, Bool.true_or,
      Bool.true_and]
    by_cases hm : m.counts e.time e
    · rw [if_pos hm, if_pos hm, List.map_singleton]
    · rw [if_neg hm, if_neg hm, List.map_nil]
  · rw [if_neg hact] at ha' ⊢
    rw [outcome_of_exposed (exposure?_append_of_some hx) hc' ha', waiting_append_singleton]
    by_cases hearly : p.hasEarlyStart
    · simp [Progress.enqueue, hearly, he]
    · simp [Progress.enqueue, hearly]

/-- **One more event** leads from what the history says to what the longer history says. -/
theorem outcome_append_singleton :
    outcome p (es ++ [e]) read = (outcome p es read).observe read p e := by
  cases hx : exposure? p es with
  | none =>
    cases he : p.exposure.accepts e with
    | false => exact outcome_append_wait hx he
    | true => exact outcome_append_enter hx he
  | some x =>
    cases hc : conflict? p es x with
    | some c => exact outcome_append_conflict hx hc
    | none =>
      cases he : p.exposure.accepts e with
      | true => exact outcome_append_exposure hx hc he
      | false =>
        cases ha : start? p es x with
        | none => exact outcome_append_await hx hc ha he
        | some a => exact outcome_append_capture hx hc ha he

end

end History

/-- **Observing the events one by one leads to the outcome of their history.** -/
theorem Progress.afterEvents_eq_outcome {α : Type} (read : MetricStep → Event → α)
    (p : ExperimentPlan) (es : List Event) :
    Progress.afterEvents read p es = History.outcome p es read := by
  induction es using List.reverseRecOn with
  | nil => rfl
  | append_singleton es e ih =>
    rw [afterEvents_append_singleton, ih, History.outcome_append_singleton]

theorem Progress.backlog_of_active {α : Type} {read : MetricStep → Event → α} (p : ExperimentPlan)
    (es : List Event) (h : (Progress.afterEvents read p es).phase = .active) :
    (Progress.afterEvents read p es).backlog = none := by
  rw [afterEvents_eq_outcome] at h ⊢
  unfold History.outcome at h ⊢
  cases hx : History.exposure? p es with
  | none => simp [hx] at h
  | some x =>
    rw [hx] at h
    have hne : ¬ History.phase p es x = .exposed := fun hexposed => by simp [hexposed] at h
    simp [hne]

/-- **The state of a user is read off the history.** Without an entry nothing is known. With one,
the phase tells whether there is a conflict or else a start, and each metric has the numbers of
the events that count for it, in order. -/
theorem UserState.afterEvents_history (p : ExperimentPlan) (es : List Event) :
    let s := UserState.afterEvents p es
    match History.exposure? p es with
    | none =>
      s.phase = .notExposed ∧ s.variation = none ∧ s.dimension = none ∧ s.start = none ∧
        s.values = p.metrics.map fun _ => []
    | some x =>
      s.variation = x.event.lookup? p.variationPath ∧
      s.dimension = p.dimension.bind (·.eval x.event) ∧
      (s.phase = .multiVariant ↔ (History.conflict? p es x).isSome) ∧
      (s.phase = .active ↔
        (History.conflict? p es x).isNone ∧ (History.start? p es x).isSome) ∧
      (s.phase = .exposed ↔
        (History.conflict? p es x).isNone ∧ (History.start? p es x).isNone) ∧
      s.start = (History.start? p es x).map (·.event.time) ∧
      s.values = p.metrics.map fun m =>
        match History.start? p es x with
        | none => []
        | some a => (History.capturesFrom p es x a m).map m.contribution := by
  intro s
  have hs : s = History.outcome p es MetricStep.contribution :=
    Progress.afterEvents_eq_outcome MetricStep.contribution p es
  cases hx : History.exposure? p es with
  | none => simp [hs, History.outcome_of_none hx, Progress.initial]
  | some x =>
    have hphase : s.phase = History.phase p es x := by
      rw [hs, History.phase_outcome, hx, Option.elim_some]
    refine ⟨?_, ?_, ?_, ?_, ?_, ?_, ?_⟩
    · rw [hs, History.variation_outcome, hx, Option.bind_some]
    · rw [hs, History.dimension_outcome, hx, Option.bind_some]
    · rw [hphase, History.phase_eq_multiVariant]
    · rw [hphase, History.phase_eq_active]
    · rw [hphase, History.phase_eq_exposed]
    · rw [hs, History.start_outcome, hx, Option.bind_some]
    · rw [hs, History.values_outcome]
      refine List.map_congr_left fun m _ => ?_
      rw [History.captures_of_entry hx]
      cases History.start? p es x <;> rfl

end ExperimentQuery
