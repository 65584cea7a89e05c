import ExperimentQuery.Experiment.Basic
import Mathlib.Logic.Relation

/-!
# Overrides of a metric's window

An experiment replaces the windows of its metrics in part: an override sets the kind of a window,
its length and its delay, or only some of them. The overrides of a metric are applied one after the
other, so each part of the window is what was set last, whichever override set it and whatever else
that override sets.

* `lastSet?`: what some overrides set a part to last;
* `WindowSettings.overridden`: a window with each part as it was set last;
* `MetricOverride.apply_comm`: overrides that set different parts may change places;
* `OverrideChange`: what may happen to a list of overrides without a metric's notice;
* **`ExperimentSettings.applyOverrides_last_wins`**: the overrides of a metric.
-/

namespace ExperimentQuery

/-! ## The last word on each part -/

section

variable {α : Type} (part : MetricOverride → Option α)

/-- What the last of some overrides that sets a part sets it to. -/
def lastSet? (os : List MetricOverride) : Option α := (os.filterMap part).getLast?

theorem lastSet?_cons (o : MetricOverride) (os : List MetricOverride) :
    lastSet? part (o :: os) = (lastSet? part os).or (part o) := by
  unfold lastSet?
  cases hpart : part o with
  | none => rw [List.filterMap_cons_none hpart, Option.or_none]
  | some a =>
    rw [List.filterMap_cons_some hpart, List.getLast?_cons]
    cases (os.filterMap part).getLast? <;> rfl

end

/-- A window with each part as some overrides set it last, lengths and delays in hours. A part that
none of them sets is kept. -/
def WindowSettings.overridden (w : WindowSettings) (os : List MetricOverride) : WindowSettings :=
  { kind := (lastSet? (·.windowType) os).getD w.kind
    delayValue := (lastSet? (·.delayHours) os).getD w.delayValue
    delayUnit := (lastSet? (·.delayHours) os).elim w.delayUnit fun _ => .hours
    windowValue := (lastSet? (·.windowHours) os).getD w.windowValue
    windowUnit := (lastSet? (·.windowHours) os).elim w.windowUnit fun _ => .hours }

theorem elim_or {α β : Type} (x y : Option α) (b c : β) :
    ((x.or y).elim b fun _ => c) = x.elim (if y.isSome then c else b) fun _ => c := by
  cases x <;> cases y <;> rfl

namespace WindowSettings

variable (w : WindowSettings)

theorem overridden_cons (o : MetricOverride) (os : List MetricOverride) :
    w.overridden (o :: os) = (o.applyToWindow w).overridden os := by
  simp only [overridden, lastSet?_cons, Option.getD_or, elim_or, MetricOverride.applyToWindow]

theorem overridden_overridden (os : List MetricOverride) :
    (w.overridden os).overridden os = w.overridden os := by
  simp only [overridden]
  cases lastSet? (·.windowType) os <;> cases lastSet? (·.delayHours) os <;>
    cases lastSet? (·.windowHours) os <;> rfl

end WindowSettings

namespace MetricOverride

/-- **Overrides that are applied in order** leave each part as it was set last. -/
theorem foldl_apply (m : Metric) (os : List MetricOverride) :
    os.foldl (fun m o => o.apply m) m = { m with window := m.window.overridden os } := by
  induction os generalizing m with
  | nil => rfl
  | cons o os ih =>
    rw [List.foldl_cons, ih, WindowSettings.overridden_cons]
    rfl

end MetricOverride

/-! ## Changes without notice -/

namespace MetricOverride

/-- Two overrides set no part in common. -/
def SetsApart (o o' : MetricOverride) : Prop :=
  (o.windowType = none ∨ o'.windowType = none) ∧ (o.windowHours = none ∨ o'.windowHours = none) ∧
    (o.delayHours = none ∨ o'.delayHours = none)

/-- **Overrides that set different parts may change places.** -/
theorem apply_comm {o o' : MetricOverride} (h : o.SetsApart o') (m : Metric) :
    o'.apply (o.apply m) = o.apply (o'.apply m) := by
  obtain ⟨hkind, hlength, hdelay⟩ := h
  simp only [apply, applyToWindow]
  rcases hkind with hkind | hkind <;> rcases hlength with hlength | hlength <;>
    rcases hdelay with hdelay | hdelay <;> simp [hkind, hlength, hdelay]

end MetricOverride

/-- What may happen to the overrides of an experiment without notice of the metric with an id: an
override of another metric comes in, or two neighbours that set different parts change places. -/
inductive OverrideChange (id : String) : List MetricOverride → List MetricOverride → Prop
  | foreign {o : MetricOverride} (h : o.id ≠ id) (before after : List MetricOverride) :
      OverrideChange id (before ++ after) (before ++ o :: after)
  | swap {o o' : MetricOverride} (h : o.SetsApart o') (before after : List MetricOverride) :
      OverrideChange id (before ++ o :: o' :: after) (before ++ o' :: o :: after)

namespace ExperimentSettings

variable (s : ExperimentSettings) (m : Metric)

theorem applyOverrides_eq :
    s.applyOverrides m =
      { m with window := m.window.overridden (s.overrides.filter (·.id = m.id)) } :=
  MetricOverride.foldl_apply m _

theorem applyOverrides_of_change {os os' : List MetricOverride} (h : OverrideChange m.id os os') :
    { s with overrides := os }.applyOverrides m = { s with overrides := os' }.applyOverrides m := by
  simp only [applyOverrides]
  cases h with
  | foreign ho before after =>
    rw [List.filter_append, List.filter_append, List.filter_cons_of_neg (by simpa using ho)]
  | @swap o o' ho before after =>
    rw [List.filter_append, List.filter_append, List.foldl_append, List.foldl_append]
    generalize (before.filter (·.id = m.id)).foldl (fun m o => o.apply m) m = n
    by_cases hid : o.id = m.id <;> by_cases hid' : o'.id = m.id
    · -- both are applied, in either order
      simp [hid, hid', MetricOverride.apply_comm ho]
    all_goals simp [hid, hid']

/-- **The last word on each part of a window wins**: the kind, the length and the delay are each
what the last override of the metric that sets it says, in hours, or else the metric's own, and
nothing else of the metric changes. So overrides of other metrics may come and go, and overrides
that set different parts may change places; and to apply overrides twice is to apply them once. -/
theorem applyOverrides_last_wins :
    s.applyOverrides m =
        { m with window := m.window.overridden (s.overrides.filter (·.id = m.id)) } ∧
      (∀ os, Relation.EqvGen (OverrideChange m.id) s.overrides os →
        { s with overrides := os }.applyOverrides m = s.applyOverrides m) ∧
      s.applyOverrides (s.applyOverrides m) = s.applyOverrides m := by
  refine ⟨s.applyOverrides_eq m, fun os h => ?_, ?_⟩
  · have hsame : ∀ {os os'}, Relation.EqvGen (OverrideChange m.id) os os' →
        { s with overrides := os }.applyOverrides m =
          { s with overrides := os' }.applyOverrides m := by
      intro os os' h
      induction h with
      | rel os os' h => exact s.applyOverrides_of_change m h
      | refl os => rfl
      | symm os os' _ ih => exact ih.symm
      | trans os os' os'' _ _ ih ih' => exact ih.trans ih'
    exact (hsame h).symm
  · rw [s.applyOverrides_eq m, applyOverrides_eq]
    dsimp only
    rw [WindowSettings.overridden_overridden]

end ExperimentSettings

/-- Refunds of the two days from the third day after an exposure. -/
def refundMetric : Metric :=
  { id := "fact__refunds"
    name := "Refunds"
    kind := .count
    events := "refund"
    numerator := { factTable := "refunds" }
    window := ⟨.conversion, 3.0, .days, 2.0, .days⟩ }

/-- A look back on the two days from the first hour, the length of which is replaced later, after an
override of another metric. -/
def refundSettings : ExperimentSettings :=
  { experimentId := "checkout"
    start := ⟨0, 0⟩
    stop := ⟨1209600, 0⟩
    overrides :=
      [{ id := "fact__refunds", windowType := some .lookback, delayHours := some 1.0 },
        { id := "fact__orders", windowType := some .none },
        { id := "fact__refunds", windowHours := some 48.0 },
        { id := "fact__refunds", windowHours := some 6.0 }] }

/-- Two of the overrides change places, and the one of another metric is left out. -/
theorem applyOverrides_last_wins_refunds :
    let os : List MetricOverride :=
      [{ id := "fact__refunds", windowHours := some 48.0 },
        { id := "fact__refunds", windowType := some .lookback, delayHours := some 1.0 },
        { id := "fact__refunds", windowHours := some 6.0 }]
    Relation.EqvGen (OverrideChange "fact__refunds") refundSettings.overrides os ∧
      { refundSettings with overrides := os }.applyOverrides refundMetric =
        refundSettings.applyOverrides refundMetric ∧
      (refundSettings.applyOverrides refundMetric).window =
        ⟨.lookback, 1.0, .hours, 6.0, .hours⟩ := by
  intro os
  have hchange : Relation.EqvGen (OverrideChange "fact__refunds") refundSettings.overrides os := by
    refine .trans _ _ _ (.symm _ _ (.rel _ _ (.foreign ?_ [_] [_, _]))) (.rel _ _ (.swap ?_ [] [_]))
    · decide
    · exact ⟨.inr rfl, .inl rfl, .inr rfl⟩
  obtain ⟨happlied, hchanges, -⟩ := refundSettings.applyOverrides_last_wins refundMetric
  refine ⟨hchange, hchanges os hchange, ?_⟩
  rw [happlied]
  rfl

end ExperimentQuery
