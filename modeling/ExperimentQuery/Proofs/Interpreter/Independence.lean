import ExperimentQuery.Proofs.Interpreter.Included

/-!
# Metrics do not interfere

The metrics of an experiment share the events that are read, the backlog and the state of a user.
Still each is summed up as if it were the only one, for the same users in the same groups.

* `ExperimentPlan.SameDesign`: plans that differ in their metrics only;
* `History.captures_congr`: what is captured for a metric does not depend on the other ones;
* `RowsAgree`: rows that agree but for other metrics;
* **`runExperiment_agrees`**: the rows of two plans with a metric in common;
* **`runExperiment_metrics_independent`**: a metric in a list and alone, and in any other list.
-/

namespace ExperimentQuery

/-! ## Plans of one design -/

/-- Two plans tell users, exposures and activations apart in the same way. -/
structure ExperimentPlan.SameDesign (p q : ExperimentPlan) : Prop where
  start : p.start = q.start
  stop : p.stop = q.stop
  exposure : p.exposure = q.exposure
  variationPath : p.variationPath = q.variationPath
  userKey : p.userKey = q.userKey
  dimension : p.dimension = q.dimension
  activation : p.activation = q.activation

theorem ExperimentPlan.sameDesign_build (s : ExperimentSettings) (ms ms' : List Metric)
    (activation : Option Metric) (dimension : Option Dimension) :
    (build s ms activation dimension).SameDesign (build s ms' activation dimension) where
  start := rfl
  stop := rfl
  exposure := rfl
  variationPath := rfl
  userKey := rfl
  dimension := rfl
  activation := rfl

variable {p q : ExperimentPlan} (h : p.SameDesign q)

include h

theorem ExperimentPlan.SameDesign.onDays (es : List Event) : p.onDays es = q.onDays es := by
  rw [ExperimentPlan.onDays, ExperimentPlan.onDays, h.start, h.stop]

namespace History

variable (es : List Event) (x : Moment)

theorem exposure?_congr : exposure? p es = exposure? q es := by
  simp only [exposure?, h.exposure]

theorem conflict?_congr : conflict? p es x = conflict? q es x := by
  simp only [conflict?, conflicts, h.exposure, h.variationPath]

theorem start?_congr : start? p es x = start? q es x := by
  simp only [start?, beforeConflict, conflict?_congr h, h.exposure, h.activation,
    ExperimentPlan.activates]

theorem phase_congr : phase p es x = phase q es x := by
  rw [phase, phase, conflict?_congr h, start?_congr h]

theorem captures_congr (m : MetricStep) : captures p es m = captures q es m := by
  simp only [captures, capturesFrom, beforeConflict, exposure?_congr h, start?_congr h,
    conflict?_congr h, h.exposure]

end History

/-! ## States -/

theorem isIncluded_congr (es : List Event) :
    (UserState.afterEvents p es).isIncluded = (UserState.afterEvents q es).isIncluded := by
  have hphase : History.phase p es = History.phase q es := funext (History.phase_congr h es)
  simp only [Progress.isIncluded, UserState.afterEvents, Progress.afterEvents_eq_outcome,
    History.phase_outcome, History.variation_outcome, History.exposure?_congr h, hphase,
    h.variationPath]

theorem group_congr (es : List Event) :
    (UserState.afterEvents p es).group = (UserState.afterEvents q es).group := by
  simp only [UserState.group, UserState.afterEvents, Progress.afterEvents_eq_outcome,
    History.variation_outcome, History.dimension_outcome, History.exposure?_congr h,
    h.variationPath, h.dimension]

omit h in
theorem aggregate_afterEvents (p : ExperimentPlan) (es : List Event) :
    UserState.aggregate p (UserState.afterEvents p es) =
      p.metrics.map fun m => m.aggregate ((History.captures p es m).map m.contribution) := by
  rw [UserState.aggregate, UserState.afterEvents, Progress.afterEvents_eq_outcome,
    History.values_outcome, List.zipWith_map_right, List.zipWith_self]

theorem aggregate_congr {i j : Nat} (hij : p.metrics[i]? = q.metrics[j]?) (es : List Event) :
    (UserState.aggregate p (UserState.afterEvents p es))[i]? =
      (UserState.aggregate q (UserState.afterEvents q es))[j]? := by
  rw [aggregate_afterEvents, aggregate_afterEvents, List.getElem?_map, List.getElem?_map, hij]
  cases q.metrics[j]? with
  | none => rfl
  | some m => rw [Option.map_some, Option.map_some, History.captures_congr h]

/-! ## Groups -/

omit h

section

variable {α : Type} [OfNat α 0] [Add α] [Mul α]

/-- Two groups have the same users and, for one metric of each, the same summary. -/
def TotalsAgree (i j : Nat) (t u : GroupTotals α) : Prop :=
  t.users = u.users ∧ ∃ x, t.metrics[i]? = some x ∧ u.metrics[j]? = some x

omit [Add α] [Mul α] in
theorem totalsAgree_empty {i j m n : Nat} (hi : i < m) (hj : j < n) :
    TotalsAgree i j (.empty m : GroupTotals α) (.empty n) :=
  ⟨rfl, .empty, by simp [GroupTotals.empty, hi], by simp [GroupTotals.empty, hj]⟩

omit [OfNat α 0] in
theorem TotalsAgree.add {i j : Nat} {t u : GroupTotals α} (h : TotalsAgree i j t u)
    {xs ys : List α} {x : α} (hx : xs[i]? = some x) (hy : ys[j]? = some x) :
    TotalsAgree i j (t.add xs) (u.add ys) := by
  obtain ⟨husers, y, ht, hu⟩ := h
  refine ⟨congrArg (· + 1) husers, y.push x, ?_, ?_⟩
  · rw [GroupTotals.add, List.getElem?_zipWith, ht, hx]
  · rw [GroupTotals.add, List.getElem?_zipWith, hu, hy]

/-- Two states count alike, in one group, with the same number for one metric of each. -/
structure StatesAgree (i j : Nat) (f g : UserState → List α) (s t : UserState) : Prop where
  isIncluded : s.isIncluded = t.isIncluded
  group : s.group = t.group
  number : ∃ x, (f s)[i]? = some x ∧ (g t)[j]? = some x

/-- Users who agree lead from groups that agree to groups that agree. -/
theorem forall₂_foldl_addToGroups {i j m n : Nat} (hi : i < m) (hj : j < n)
    {f g : UserState → List α} {ss ts : List UserState}
    (h : List.Forall₂ (StatesAgree i j f g) ss ts) {as bs : List (Group × GroupTotals α)}
    (hab : List.Forall₂ (fun a b => a.1 = b.1 ∧ TotalsAgree i j a.2 b.2) as bs) :
    List.Forall₂ (fun a b => a.1 = b.1 ∧ TotalsAgree i j a.2 b.2) (ss.foldl (addToGroups m f) as)
      (ts.foldl (addToGroups n g) bs) := by
  induction h generalizing as bs with
  | nil => exact hab
  | @cons s t ss ts hst _ ih =>
    refine ih ?_
    by_cases hs : s.isIncluded
    · obtain ⟨x, hx, hy⟩ := hst.number
      rw [addToGroups_of_included hs, addToGroups_of_included (hst.isIncluded ▸ hs), hst.group]
      exact Ordered.forall₂_update ((totalsAgree_empty hi hj).add hx hy)
        (fun b c hbc => hbc.add hx hy) hab
    · rw [addToGroups_of_not_included hs, addToGroups_of_not_included (hst.isIncluded ▸ hs)]
      exact hab

end

/-! ## Rows -/

/-- Two rows are for the same users of one group and have, for one metric of each, the same
summary. -/
structure RowsAgree (i j : Nat) (r t : RawExperimentRow) : Prop where
  variation : r.variation = t.variation
  dimension : r.dimension = t.dimension
  users : r.users = t.users
  summary : ∃ x, r.metrics[i]? = some x ∧ t.metrics[j]? = some x

theorem rowsAgree_groupRow {i j : Nat} {m : MetricStep} (hi : p.metrics[i]? = some m)
    (hj : q.metrics[j]? = some m) {a b : Group × GroupTotals Float}
    (h : a.1 = b.1 ∧ TotalsAgree i j a.2 b.2) : RowsAgree i j (groupRow p a) (groupRow q b) := by
  obtain ⟨hgroup, husers, x, ha, hb⟩ := h
  refine ⟨?_, ?_, husers, rawSummary m x, ?_, ?_⟩
  · rw [groupRow, groupRow, hgroup]
  · rw [groupRow, groupRow, hgroup]
  · rw [groupRow, List.getElem?_zipWith, hi, ha]
  · rw [groupRow, List.getElem?_zipWith, hj, hb]

include h in
/-- **The rows of two plans with a metric in common** agree on that metric. -/
theorem runExperiment_agrees (hp : p.SelectsRelevant) (hq : q.SelectsRelevant) {i j : Nat}
    {m : MetricStep} (hi : p.metrics[i]? = some m) (hj : q.metrics[j]? = some m)
    (es : List Event) :
    List.Forall₂ (RowsAgree i j) (runExperiment p es) (runExperiment q es) := by
  have hstates : List.Forall₂ (StatesAgree i j (UserState.aggregate p) (UserState.aggregate q))
      (userStates p (p.onDays es)) (userStates q (q.onDays es)) := by
    rw [← h.onDays, userStates, userStates, ← h.userKey, List.forall₂_map_left_iff,
      List.forall₂_map_right_iff, List.forall₂_same]
    intro u _
    refine ⟨isIncluded_congr h u.2, group_congr h u.2, ?_⟩
    have hnumber := aggregate_congr h (hi.trans hj.symm) u.2
    refine ⟨m.aggregate ((History.captures q u.2 m).map m.contribution), ?_, ?_⟩
    · rw [hnumber, aggregate_afterEvents, List.getElem?_map, hj, Option.map_some]
    · rw [aggregate_afterEvents, List.getElem?_map, hj, Option.map_some]
  have hlt := (List.getElem?_eq_some_iff.mp hi).1
  have hlt' := (List.getElem?_eq_some_iff.mp hj).1
  rw [runExperiment_eq hp, runExperiment_eq hq, List.forall₂_map_left_iff,
    List.forall₂_map_right_iff]
  exact (forall₂_foldl_addToGroups hlt hlt' hstates .nil).imp fun a b hab =>
    rowsAgree_groupRow hi hj hab

include h in
theorem countedUsers_congr (hp : p.SelectsRelevant) (hq : q.SelectsRelevant) (es : List Event) :
    countedUsers p es = countedUsers q es := by
  rw [countedUsers, countedUsers, includedUsers_selectEvents hp, includedUsers_selectEvents hq,
    ← h.onDays, includedUsers, includedUsers, ← h.userKey, List.map_filterMap, List.map_filterMap]
  refine List.filterMap_congr fun u _ => ?_
  unfold includedState?
  rw [isIncluded_congr h]
  split_ifs <;> rfl

theorem length_metrics_le (p : ExperimentPlan) (es : List Event) {r : RawExperimentRow}
    (hr : r ∈ runExperiment p es) : r.metrics.length ≤ p.metrics.length := by
  obtain ⟨g, -, rfl⟩ := List.mem_map.mp hr
  rw [groupRow, List.length_zipWith]
  exact Nat.min_le_left _ _

/-- **Metrics do not interfere.** A metric in a list is summed up as it is alone, and as it is in
any other list, for the same users in the same groups, and the users that count are the same
whatever the metrics are. -/
theorem runExperiment_metrics_independent (s : ExperimentSettings) (activation : Option Metric)
    (dimension : Option Dimension) (ms : List Metric) (i : Fin ms.length) (es : List Event) :
    let plan := fun metrics => ExperimentPlan.build s metrics activation dimension
    List.Forall₂
        (fun r t => r.variation = t.variation ∧ r.dimension = t.dimension ∧ r.users = t.users ∧
          ∃ x, r.metrics[i.1]? = some x ∧ t.metrics = [x])
        (runExperiment (plan ms) es) (runExperiment (plan [ms[i]]) es) ∧
      (∀ before after,
        List.Forall₂ (RowsAgree i before.length) (runExperiment (plan ms) es)
          (runExperiment (plan (before ++ ms[i] :: after)) es)) ∧
      ∀ others, countedUsers (plan ms) es = countedUsers (plan others) es := by
  intro plan
  have hselects : ∀ metrics, (plan metrics).SelectsRelevant := fun metrics =>
    ExperimentPlan.selectsRelevant_build s metrics activation dimension
  have hmetric : ∀ metrics (j : Nat), metrics[j]? = some ms[i] →
      (plan metrics).metrics[j]? = some (.ofMetric (s.applyOverrides ms[i]) s.stop) := by
    intro metrics j hj
    simp [plan, ExperimentPlan.build, hj]
  have hi : ms[i.1]? = some ms[i] := List.getElem?_eq_getElem i.2
  have hagrees : ∀ metrics (j : Nat), metrics[j]? = some ms[i] →
      List.Forall₂ (RowsAgree i j) (runExperiment (plan ms) es) (runExperiment (plan metrics) es) :=
    fun metrics j hj =>
      runExperiment_agrees (ExperimentPlan.sameDesign_build s ms metrics activation dimension)
        (hselects ms) (hselects metrics)
        (hmetric ms i hi) (hmetric metrics j hj) es
  refine ⟨?_, fun before after => ?_, fun others => ?_⟩
  · have halone := hagrees [ms[i]] 0 rfl
    have hshort : ∀ t ∈ runExperiment (plan [ms[i]]) es, t.metrics.length ≤ 1 :=
      fun t ht => length_metrics_le (plan [ms[i]]) es ht
    refine ((List.forall₂_and_left _ _).mpr ⟨hshort, halone.flip⟩).flip.imp fun r t hrt => ?_
    obtain ⟨hlen, hagree⟩ := hrt
    obtain ⟨x, hr, ht⟩ := hagree.summary
    refine ⟨hagree.variation, hagree.dimension, hagree.users, x, hr, ?_⟩
    cases hmetrics : t.metrics with
    | nil => simp [hmetrics] at ht
    | cons y ys =>
      rw [hmetrics] at ht hlen
      have hys : ys = [] :=
        List.length_eq_zero_iff.mp (Nat.le_zero.mp (Nat.le_of_succ_le_succ hlen))
      rw [hys, Option.some.inj ht]
  · exact hagrees (before ++ ms[i] :: after) before.length (by simp)
  · exact countedUsers_congr (ExperimentPlan.sameDesign_build s ms others activation dimension)
      (hselects ms) (hselects others) es

end ExperimentQuery
