import ExperimentQuery.Proofs.Interpreter.Included

/-!
# When captured events happened

A metric counts an event only if the event lies in the window of the metric. A window without a
delay has no lower bound, and still no event from before the reference instant is counted: events
are observed in time order, and what waits in the backlog is captured for early windows alone.

* `within_bounds_iff`: what the bounds of a window say;
* `WindowSettings.Admits`: the time of an event that a window admits, whatever its delay;
* `TimeOrdered.time_le_of_position_le`: later positions have later times;
* `History.reference?`: the event whose time is the reference instant;
* `History.counts_of_mem_captures`, `History.admits_of_mem_captures`: the events that count;
* `CountsFor`, `ValuesInWindow`: what a run says of them;
* **`UserState.values_in_window`**: the values of every user in a run.
-/

namespace ExperimentQuery

/-! ## Windows -/

/-- What the bounds of a window say of an event: a delay is a lower bound unless it is zero. -/
theorem within_bounds_iff {w : WindowSettings} {stop : Time.Instant} {time start : Int} :
    within (w.bounds stop) time start ↔
      (w.delayMillis ≠ 0 → w.delayMillis ≤ time - start) ∧
      (w.kind = .conversion → time - start < w.endMillis) ∧
      (w.kind = .lookback → stop.millis - time ≤ w.windowMillis) := by
  by_cases hzero : w.delayMillis = 0 <;> cases hkind : w.kind <;>
    simp [within, WindowSettings.bounds, WindowSettings.lowerBounds, WindowBound.holds, hzero,
      hkind]

/-- A window admits an event at `time` for a user with this reference instant: the delay is over,
and the window has not ended. The end of a conversion window is known if 64 bits hold it. -/
structure WindowSettings.Admits (w : WindowSettings) (stop : Time.Instant) (start time : Int) :
    Prop where
  delay : w.delayMillis ≤ time - start
  conversion : w.kind = .conversion → FitsInt64 (w.delayMillis + w.windowMillis) →
    time - start < w.delayMillis + w.windowMillis
  lookback : w.kind = .lookback → stop.millis - time ≤ w.windowMillis

/-- With a delay of zero the bounds need the order of time. -/
theorem WindowSettings.admits_of_within {w : WindowSettings} {stop : Time.Instant}
    {time start : Int} (h : within (w.bounds stop) time start)
    (hzero : w.delayMillis = 0 → start ≤ time) : w.Admits stop start time := by
  obtain ⟨hdelay, hconversion, hlookback⟩ := within_bounds_iff.mp h
  refine ⟨?_, fun hkind hfits => wrap64_of_fits hfits ▸ hconversion hkind, hlookback⟩
  by_cases h0 : w.delayMillis = 0
  · have := hzero h0
    omega
  · exact hdelay h0

theorem WindowSettings.Admits.start_le {w : WindowSettings} {stop : Time.Instant}
    {time start : Int} (h : w.Admits stop start time) (hdelay : 0 ≤ w.delayMillis) :
    start ≤ time := by
  have := h.delay
  omega

/-! ## Positions and times -/

theorem getElem?_of_mem_moments {es : List Event} {q : Moment} (h : q ∈ moments es) :
    es[q.position]? = some q.event := by
  obtain ⟨⟨e, i⟩, hi, rfl⟩ := List.mem_map.mp h
  exact List.mem_zipIdx_iff_getElem?.mp hi

theorem TimeOrdered.time_le_of_position_le {es : List Event} (hes : TimeOrdered es) {a q : Moment}
    (ha : a ∈ moments es) (hq : q ∈ moments es) (h : a.position ≤ q.position) :
    a.event.time ≤ q.event.time := by
  obtain ⟨hi, hae⟩ := List.getElem?_eq_some_iff.mp (getElem?_of_mem_moments ha)
  obtain ⟨hj, hqe⟩ := List.getElem?_eq_some_iff.mp (getElem?_of_mem_moments hq)
  rw [← hae, ← hqe]
  rcases Nat.lt_or_eq_of_le h with hlt | heq
  · exact List.pairwise_iff_getElem.mp hes _ _ hi hj hlt
  · simp only [heq, le_refl]

/-! ## Histories -/

namespace History

variable {p : ExperimentPlan} {es : List Event} {e : Event} {a : Moment} {m : MetricStep}

/-- The event whose time is the reference instant: the first exposure or, if the plan has an
activation, the first activation after it. -/
def reference? (p : ExperimentPlan) (es : List Event) : Option Moment :=
  (exposure? p es).bind (start? p es)

theorem mem_moments_of_reference? (ha : reference? p es = some a) : a ∈ moments es := by
  obtain ⟨x, hx, hstart⟩ := Option.bind_eq_some_iff.mp ha
  exact start?_mem (mem_moments_of_exposure? hx) hstart

theorem start_outcome_eq {α : Type} {read : MetricStep → Event → α} :
    (outcome p es read).start = (reference? p es).map (·.event.time) := by
  rw [start_outcome, reference?]
  cases exposure? p es <;> rfl

theorem captures_sublist : (captures p es m).Sublist es := by
  unfold captures
  cases hx : exposure? p es with
  | none => exact List.nil_sublist es
  | some x =>
    cases ha : start? p es x with
    | none => simp [ha]
    | some a =>
      have hsub : (capturesFrom p es x a m).Sublist ((moments es).map Moment.event) :=
        List.filter_sublist.map _
      rw [map_event_moments] at hsub
      simpa [ha] using hsub

/-- An event that counts lies in the window after the reference instant, and it stands after the
event of that instant unless the window opens early. -/
theorem counts_of_mem_captures (he : e ∈ captures p es m) :
    ∃ a, reference? p es = some a ∧ m.counts a.event.time e ∧
      ∃ q ∈ moments es, q.event = e ∧ (a.position ≤ q.position ∨ m.isEarlyStart) := by
  cases hx : exposure? p es with
  | none => simp [captures, hx] at he
  | some x =>
    rw [captures_of_entry hx] at he
    cases ha : start? p es x with
    | none => simp [ha] at he
    | some a =>
      simp only [ha, Option.elim_some, capturesFrom, List.mem_map, List.mem_filter,
        Bool.and_eq_true, Bool.or_eq_true, decide_eq_true_eq] at he
      obtain ⟨q, ⟨hq, ⟨-, hposition⟩, hcounts⟩, rfl⟩ := he
      exact ⟨a, by rw [reference?, hx, Option.bind_some, ha], hcounts, q, hq, rfl, hposition⟩

/-- **An event that counts for a metric matches it and is one that its window admits**, if the
user's events are in time order. -/
theorem admits_of_mem_captures (hes : TimeOrdered es) {metric : Metric} {stop : Time.Instant}
    (he : e ∈ captures p es (.ofMetric metric stop)) :
    ∃ a, reference? p es = some a ∧
      (EventPredicate.ofConditions metric.eventNames metric.conditions).accepts e ∧
      metric.window.Admits stop a.event.time e.time := by
  obtain ⟨a, ha, hcounts, q, hq, rfl, hposition⟩ := counts_of_mem_captures he
  obtain ⟨hmatches, hwithin⟩ := Bool.and_eq_true_iff.mp hcounts
  refine ⟨a, ha, hmatches, WindowSettings.admits_of_within hwithin fun hzero => ?_⟩
  -- a window with no delay is not early, so the event stands after the reference instant
  have hlate : (MetricStep.ofMetric metric stop).isEarlyStart = false := by
    simp [MetricStep.isEarlyStart, MetricStep.ofMetric, hzero]
  have hle : a.position ≤ q.position := by simpa [hlate] using hposition
  exact hes.time_le_of_position_le (mem_moments_of_reference? ha) hq hle

end History

/-! ## Runs -/

section

variable {property : Option String} {es : List Event} {u : UserKey × List Event}

theorem eq_of_mem_groupByUser (h : u ∈ groupByUser property es) :
    u.2 = inTimeOrder (eventsOf property u.1 es) := by
  have hfind := (increasing_groupByUser property es).find?_of_mem h
  rw [find?_groupByUser, Option.map_eq_some_iff] at hfind
  obtain ⟨l, hl, hu⟩ := hfind
  unfold nonempty? at hl
  split_ifs at hl
  cases hl
  exact hu.symm

theorem timeOrdered_of_mem_groupByUser (h : u ∈ groupByUser property es) : TimeOrdered u.2 := by
  rw [eq_of_mem_groupByUser h]
  exact timeOrdered_inTimeOrder _

theorem mem_of_mem_groupByUser (h : u ∈ groupByUser property es) {e : Event} (he : e ∈ u.2) :
    e ∈ es ∧ userKey property e = u.1 := by
  rw [eq_of_mem_groupByUser h, (inTimeOrder_perm _).mem_iff, eventsOf, List.mem_filter] at he
  exact ⟨he.1, of_decide_eq_true he.2⟩

end

/-- An event in a list is one of a user's, matches a metric, and lies in the window of the metric
after the reference instant of the user. -/
structure CountsFor (p : ExperimentPlan) (metric : Metric) (es : List Event) (user : UserKey)
    (reference : Int) (e : Event) : Prop where
  mem : e ∈ es
  user : userKey p.userKey e = user
  matching : (EventPredicate.ofConditions metric.eventNames metric.conditions).accepts e
  window : metric.window.Admits p.stop reference e.time
  notBefore : 0 ≤ metric.window.delayMillis → reference ≤ e.time

/-- The values of a metric are those of some of the events that a user's state has seen, in order,
and each of them counts after the user's reference instant. -/
def ValuesInWindow (p : ExperimentPlan) (es : List Event) (user : UserKey) (seen : List Event)
    (metric : Metric) (values : List Sample) : Prop :=
  ∃ captured : List Event, captured.Sublist seen ∧
    values = captured.map (MetricStep.ofMetric metric p.stop).contribution ∧
    ∀ e ∈ captured, ∃ a, History.reference? p seen = some a ∧
      CountsFor p metric es user a.event.time e

/-- **Every value comes from an event in the window.** Take the state of a user in a run of a plan
that is built, after any number of the user's events. Its start is the time of the first exposure
or, if the plan has an activation, of the first activation after it, and the values of each metric
are those of events of the user that match the metric and lie in its window after that instant. A
metric without a negative delay counts no event from before it. -/
theorem UserState.values_in_window (s : ExperimentSettings) (ms : List Metric)
    (activation : Option Metric) (dimension : Option Dimension) (es : List Event) :
    let p := ExperimentPlan.build s ms activation dimension
    ∀ u ∈ groupByUser p.userKey (selectEvents p.selectors p.start p.stop p.concerns es),
      ∀ seen, seen <+: u.2 →
        (UserState.afterEvents p seen).start = (History.reference? p seen).map (·.event.time) ∧
        List.Forall₂
          (fun m values => ValuesInWindow p es u.1 seen (s.applyOverrides m) values) ms
          (UserState.afterEvents p seen).values := by
  intro p u hu seen hseen
  have hsorted : TimeOrdered seen := (timeOrdered_of_mem_groupByUser hu).sublist hseen.sublist
  have hstate : UserState.afterEvents p seen = History.outcome p seen MetricStep.contribution :=
    Progress.afterEvents_eq_outcome MetricStep.contribution p seen
  have hmetrics : p.metrics = ms.map fun m => .ofMetric (s.applyOverrides m) s.stop := by
    simp [p, ExperimentPlan.build]
  rw [hstate]
  refine ⟨History.start_outcome_eq, ?_⟩
  rw [History.values_outcome, hmetrics, List.map_map, List.forall₂_map_right_iff,
    List.forall₂_same]
  intro m _
  refine ⟨_, History.captures_sublist, rfl, fun e he => ?_⟩
  obtain ⟨a, ha, hmatches, hwindow⟩ := History.admits_of_mem_captures hsorted he
  have hmem : e ∈ u.2 := hseen.subset (History.captures_sublist.subset he)
  obtain ⟨hselected, hkey⟩ := mem_of_mem_groupByUser hu hmem
  exact ⟨a, ha, (List.mem_filter.mp hselected).1, hkey, hmatches, hwindow, hwindow.start_le⟩

/-- The clicks from an hour before the exposure to an hour after it. -/
def earlyClickMetric : Metric :=
  { clickMetric with
    id := "fact__early_clicks"
    window := { kind := .conversion, delayValue := -1.0, windowValue := 2.0 } }

/-- A user clicks before the exposure and after it, the clicks arriving in another order. -/
theorem UserState.values_in_window_clicks :
    let ms := [clickMetric, earlyClickMetric]
    let p := ExperimentPlan.build bannerSettings ms none none
    let es := [bannerExposure 4000, userEvent "click" 5000, userEvent "click" 3000]
    let u := (UserKey.mk "u" "",
      [userEvent "click" 3000, bannerExposure 4000, userEvent "click" 5000])
    u ∈ groupByUser p.userKey (selectEvents p.selectors p.start p.stop p.concerns es) ∧
      u.2 <+: u.2 ∧ (UserState.afterEvents p u.2).start = some 4000 ∧
      List.Forall₂
        (fun m values => ValuesInWindow p es u.1 u.2 (bannerSettings.applyOverrides m) values) ms
        (UserState.afterEvents p u.2).values := by
  intro ms p es u
  have hsorted : inTimeOrder es = u.2 := by
    simp [es, u, inTimeOrder, List.mergeSort, userEvent, bannerExposure]
  have hselected : selectEvents p.selectors p.start p.stop p.concerns es = es := by rfl
  have huser : p.userKey = none := rfl
  have hgroups : groupByUser none es = [(u.1, inTimeOrder es)] := by rfl
  have hu : u ∈ groupByUser p.userKey (selectEvents p.selectors p.start p.stop p.concerns es) := by
    rw [hselected, huser, hgroups, hsorted]
    exact List.mem_singleton_self u
  have hvalues :=
    UserState.values_in_window bannerSettings ms none none es u hu u.2 (List.prefix_refl u.2)
  exact ⟨hu, List.prefix_refl u.2, rfl, hvalues.2⟩

end ExperimentQuery
