import ExperimentQuery.Interpreter.Run
import ExperimentQuery.Proofs.Interpreter.Outcome

/-!
# Events that matter

An event that is no exposure, activates nobody and matches no metric has no effect on a user but to
wait with others in the backlog, and then no effect when the backlog is captured.

* `Progress.relevant`: what is known, with only the events that matter waiting;
* `Progress.relevant_observe_of_concerns`, `Progress.relevant_observe_of_not_concerns`: one event;
* **`Progress.afterEvents_filter_concerns`**: the other events may be left out.
-/

namespace ExperimentQuery

/-! ## Events without effect -/

variable {α : Type} {read : MetricStep → Event → α} {p : ExperimentPlan} {e : Event}

theorem concerns_of_counts {m : MetricStep} (hm : m ∈ p.metrics) {start : Int}
    (h : m.counts start e) : p.concerns e := by
  have haccepts : m.predicate.accepts e := (Bool.and_eq_true_iff.mp h).1
  have hany : p.metrics.any (·.predicate.accepts e) := List.any_eq_true.mpr ⟨m, hm, haccepts⟩
  rw [ExperimentPlan.concerns, hany, Bool.or_true]

theorem replay_filter_concerns (wants : MetricStep → Bool) (start : Int) (queue : List Event)
    (f : MetricStep → List α) :
    (queue.filter p.concerns).foldl
        (fun values e => captureFor read p.metrics wants start e values) (p.metrics.map f) =
      queue.foldl (fun values e => captureFor read p.metrics wants start e values)
        (p.metrics.map f) := by
  rw [replay_map, replay_map]
  refine List.map_congr_left fun m hm => ?_
  rw [List.filter_filter]
  refine congrArg (fun es => f m ++ List.map (read m) es) (List.filter_congr fun e _ => ?_)
  by_cases hc : m.counts start e
  · rw [concerns_of_counts hm hc, Bool.and_true]
  · simp [hc]

theorem captureFor_of_not_concerns (he : p.concerns e = false) (wants : MetricStep → Bool)
    (start : Int) (f : MetricStep → List α) :
    captureFor read p.metrics wants start e (p.metrics.map f) = p.metrics.map f := by
  rw [captureFor_map]
  refine List.map_congr_left fun m hm => ?_
  have hc : ¬ m.counts start e := fun hc => by simp [concerns_of_counts hm hc] at he
  simp [hc]

namespace Progress

/-- What is known, with only the relevant events waiting. -/
def relevant (p : ExperimentPlan) (s : Progress α) : Progress α :=
  { s with backlog := s.backlog.map (·.filter p.concerns) }

variable {s : Progress α} {f : MetricStep → List α}

theorem relevant_enqueue_of_concerns (he : p.concerns e) :
    (s.enqueue e).relevant p = (s.relevant p).enqueue e := by
  cases hb : s.backlog <;> simp [relevant, enqueue, hb, he]

theorem relevant_enqueue_of_not_concerns (he : p.concerns e = false) :
    (s.enqueue e).relevant p = s.relevant p := by
  cases hb : s.backlog <;> simp [relevant, enqueue, hb, he]

theorem relevant_capture : (s.capture read p e).relevant p = (s.relevant p).capture read p e := by
  unfold capture
  cases hs : s.start <;> simp [relevant, hs]

theorem relevant_activate (hs : s.values = p.metrics.map f) (time : Int) :
    (s.activate read p time).relevant p = (s.relevant p).activate read p time := by
  cases hb : s.backlog with
  | none => simp [relevant, activate, hb]
  | some queue => simp [relevant, activate, hb, hs, replay_filter_concerns]

theorem relevant_enter (hs : s.values = p.metrics.map f) :
    (s.enter read p e).relevant p = (s.relevant p).enter read p e := by
  unfold enter
  by_cases hp : p.activation.isSome
  · rw [if_pos hp, if_pos hp]
    rfl
  · rw [if_neg hp, if_neg hp]
    refine relevant_activate (f := f) ?_ e.time
    exact hs

theorem relevant_reexpose : (s.reexpose p e).relevant p = (s.relevant p).reexpose p e := by
  unfold reexpose
  have hvariation : (s.relevant p).variation = s.variation := rfl
  rw [hvariation]
  split_ifs <;> rfl

/-- A relevant event has the same effect whatever irrelevant events wait. -/
theorem relevant_observe_of_concerns (hs : s.values = p.metrics.map f) (he : p.concerns e) :
    (s.observe read p e).relevant p = (s.relevant p).observe read p e := by
  have hphase : (s.relevant p).phase = s.phase := rfl
  unfold observe
  by_cases haccepts : p.exposure.accepts e
  · rw [if_pos haccepts, if_pos haccepts, onExposure, onExposure, hphase]
    cases s.phase with
    | notExposed => exact relevant_enter hs
    | exposed => exact relevant_reexpose
    | active => exact relevant_reexpose
    | multiVariant => rfl
  · rw [if_neg haccepts, if_neg haccepts, onEvent, onEvent, hphase]
    cases s.phase with
    | notExposed => exact relevant_enqueue_of_concerns he
    | multiVariant => rfl
    | active => exact relevant_capture
    | exposed =>
      dsimp only
      by_cases hact : p.activates e
      · rw [if_pos hact, if_pos hact, relevant_capture, relevant_activate hs]
      · rw [if_neg hact, if_neg hact, relevant_enqueue_of_concerns he]

/-- An irrelevant event has no effect but to wait. -/
theorem relevant_observe_of_not_concerns (hs : s.values = p.metrics.map f)
    (he : p.concerns e = false) : (s.observe read p e).relevant p = s.relevant p := by
  have hparts := he
  simp only [ExperimentPlan.concerns, Bool.or_eq_false_iff] at hparts
  obtain ⟨⟨haccepts, hact⟩, -⟩ := hparts
  rw [observe, if_neg (by simp [haccepts]), onEvent]
  cases s.phase with
  | notExposed => exact relevant_enqueue_of_not_concerns he
  | multiVariant => rfl
  | exposed =>
    dsimp only
    rw [if_neg (by simp [hact]), relevant_enqueue_of_not_concerns he]
  | active =>
    dsimp only
    unfold capture
    cases hstart : s.start with
    | none => rfl
    | some start => simp only [hs, captureFor_of_not_concerns he]; rw [← hs, ← hstart]

/-- **Irrelevant events may be left out**: then they are missing where events wait, and nowhere
else. -/
theorem afterEvents_filter_concerns (p : ExperimentPlan) (es : List Event) :
    afterEvents read p (es.filter p.concerns) = (afterEvents read p es).relevant p := by
  induction es using List.reverseRecOn with
  | nil =>
    simp only [List.filter_nil, afterEvents_nil, relevant, initial]
    split_ifs <;> rfl
  | append_singleton es e ih =>
    have hs : (afterEvents read p es).values =
        p.metrics.map fun m => (History.captures p es m).map (read m) := by
      rw [afterEvents_eq_outcome, History.values_outcome]
    rw [List.filter_append, afterEvents_append_singleton]
    cases he : p.concerns e with
    | true =>
      rw [List.filter_cons_of_pos he, List.filter_nil, afterEvents_append_singleton, ih,
        relevant_observe_of_concerns hs he]
    | false =>
      rw [List.filter_cons_of_neg (by simp [he]), List.filter_nil, List.append_nil, ih,
        relevant_observe_of_not_concerns hs he]

end Progress

end ExperimentQuery
