import ExperimentQuery.Proofs.Interpreter.Grouping

/-!
# The order of arrival

Events may arrive in any order as long as those of one user and one time keep theirs. The events of
each user are put in time order before anything is computed, and what users add up to is taken in
the order of the users.

* `SameArrivals`: two lists have the same events of each user and time, in the same order;
* `groupByUser_eq_of_sameArrivals`: then the events of each user in time order are the same;
* **`run_eq_of_sameArrivals`**: and so are the results of every plan.
-/

namespace ExperimentQuery

variable {property : Option String} {es fs : List Event}

/-- Two lists have the same events of each user and time, in the same order. -/
def SameArrivals (property : Option String) (es fs : List Event) : Prop :=
  ∀ (k : UserKey) (t : Int), atTime t (eventsOf property k es) = atTime t (eventsOf property k fs)

theorem SameArrivals.filter (h : SameArrivals property es fs) (keep : Event → Bool) :
    SameArrivals property (es.filter keep) (fs.filter keep) := by
  intro k t
  have hcomm : ∀ gs : List Event, atTime t (eventsOf property k (gs.filter keep)) =
      (atTime t (eventsOf property k gs)).filter keep := by
    intro gs
    rw [eventsOf, atTime, filter_comm _ keep, filter_comm _ keep]
    rfl
  rw [hcomm, hcomm, h k t]

/-- Two neighbours may change places if they are of different users or times. -/
theorem sameArrivals_swap {a b : Event}
    (hab : userKey property a ≠ userKey property b ∨ a.time ≠ b.time) (before after : List Event) :
    SameArrivals property (before ++ [a, b] ++ after) (before ++ [b, a] ++ after) := by
  intro k t
  have hfilter : ∀ gs : List Event, atTime t (eventsOf property k gs) =
      gs.filter fun e => decide (e.time = t) && decide (userKey property e = k) :=
    fun gs => List.filter_filter
  have hpair : [a, b].filter (fun e => decide (e.time = t) && decide (userKey property e = k)) =
      [b, a].filter fun e => decide (e.time = t) && decide (userKey property e = k) := by
    by_cases ha : a.time = t ∧ userKey property a = k
    · have hb : ¬ (b.time = t ∧ userKey property b = k) := by
        rintro ⟨htime, hkey⟩
        rcases hab with hab | hab
        · exact hab (ha.2.trans hkey.symm)
        · exact hab (ha.1.trans htime.symm)
      simp [ha, hb]
    · simp [List.filter_cons, ha]
  rw [hfilter, hfilter, List.filter_append, List.filter_append, hpair, ← List.filter_append,
    ← List.filter_append]

/-! ## Results -/

theorem map_inTimeOrder_nonempty? (es : List Event) :
    (nonempty? es).map inTimeOrder = nonempty? (inTimeOrder es) := by
  have hempty : (inTimeOrder es).isEmpty = es.isEmpty := (inTimeOrder_perm es).isEmpty_eq
  unfold nonempty?
  rw [hempty]
  cases es.isEmpty <;> rfl

/-- **The events of each user in time order** do not depend on the order of arrival. -/
theorem groupByUser_eq_of_sameArrivals (h : SameArrivals property es fs) :
    groupByUser property es = groupByUser property fs := by
  refine (increasing_groupByUser property es).ext (increasing_groupByUser property fs) fun k => ?_
  rw [find?_groupByUser, find?_groupByUser, map_inTimeOrder_nonempty?, map_inTimeOrder_nonempty?,
    inTimeOrder_eq_of_atTime (h k)]

theorem SameArrivals.selectEvents (h : SameArrivals property es fs) (selectors : List String)
    (start stop : Time.Instant) (keep : Event → Bool) :
    SameArrivals property (selectEvents selectors start stop keep es)
      (selectEvents selectors start stop keep fs) :=
  h.filter _

theorem runExperiment_eq_of_sameArrivals {p : ExperimentPlan} (h : SameArrivals p.userKey es fs) :
    runExperiment p es = runExperiment p fs := by
  unfold runExperiment userStates
  dsimp only
  rw [groupByUser_eq_of_sameArrivals (h.selectEvents p.selectors p.start p.stop p.concerns)]

theorem runMetricValue_eq_of_sameArrivals {p : MetricValuePlan}
    (h : SameArrivals p.userKey es fs) (batchSize : Nat) :
    runMetricValue batchSize p es = runMetricValue batchSize p fs := by
  unfold runMetricValue userValues
  rw [groupByUser_eq_of_sameArrivals (h.selectEvents p.selectors p.start p.stop p.concerns)]

/-- **The order of arrival does not matter**: the results of a plan, of either kind and whatever the
size of batches, are the same for two lists in which the events of each user and time are the
same. -/
theorem run_eq_of_sameArrivals :
    (∀ (p : ExperimentPlan) (es fs : List Event), SameArrivals p.userKey es fs →
        runExperiment p es = runExperiment p fs) ∧
      ∀ (batchSize : Nat) (p : MetricValuePlan) (es fs : List Event),
        SameArrivals p.userKey es fs → runMetricValue batchSize p es = runMetricValue batchSize p fs :=
  ⟨fun _ _ _ h => runExperiment_eq_of_sameArrivals h,
    fun batchSize _ _ _ h => runMetricValue_eq_of_sameArrivals h batchSize⟩

/-- Visits split by the kind of account. -/
def visitMetric : Metric :=
  { id := "fact__visits"
    name := "Visits"
    kind := .count
    events := "visit"
    numerator := { factTable := "visits" } }

/-- The plan of an experiment on visits. -/
def visitPlan : ExperimentPlan :=
  .build { experimentId := "banner", start := ⟨0, 0⟩, stop := ⟨864000, 0⟩,
           extraUserIdProperty := some "account" } [visitMetric] none none

/-- The plan of the values of visits by date. -/
def visitValuePlan : MetricValuePlan :=
  .build { name := "Visits", metric := visitMetric, start := ⟨0, 0⟩, stop := ⟨864000, 0⟩,
           includeByDate := true, extraUserIdProperty := some "account" }

/-- A person enters the experiment with some account. -/
def accountExposure (account : String) : Event :=
  { name := defaultExposureEvent
    time := 4000
    distinctId := "u"
    properties := [(defaultExperimentIdProperty, .str "banner"),
      (defaultVariationIdProperty, .str "1"), ("account", .str account)] }

/-- A visit of one person with some account. -/
def visit (account : String) : Event :=
  { name := "visit", time := 5000, distinctId := "u", properties := [("account", .str account)] }

/-- Two accounts of one person count as two users, whichever visit arrives first. -/
theorem run_eq_of_sameArrivals_visits :
    let es := [accountExposure "home", accountExposure "work", visit "home", visit "work"]
    let fs := [accountExposure "home", accountExposure "work", visit "work", visit "home"]
    SameArrivals (some "account") es fs ∧
      runExperiment visitPlan es = runExperiment visitPlan fs ∧
      (runExperiment visitPlan fs).map (·.users) = [2] ∧
      runMetricValue 1 visitValuePlan es = runMetricValue 1 visitValuePlan fs := by
  intro es fs
  have hsame : SameArrivals (some "account") es fs :=
    sameArrivals_swap (.inl (by decide)) [accountExposure "home", accountExposure "work"] []
  have hrun := run_eq_of_sameArrivals.1 visitPlan es fs hsame
  have husers : (runExperiment visitPlan es).map (·.users) = [2] := by
    have hgroups : groupByUser visitPlan.userKey (selectEvents visitPlan.selectors visitPlan.start
        visitPlan.stop visitPlan.concerns es) =
          [(⟨"u", "home"⟩, inTimeOrder [accountExposure "home", visit "home"]),
            (⟨"u", "work"⟩, inTimeOrder [accountExposure "work", visit "work"])] := by rfl
    have hsorted : ∀ account, inTimeOrder [accountExposure account, visit account] =
        [accountExposure account, visit account] := by
      simp [inTimeOrder, List.mergeSort, accountExposure, visit]
    rw [runExperiment, userStates, hgroups, hsorted, hsorted]
    rfl
  exact ⟨hsame, hrun, hrun ▸ husers, run_eq_of_sameArrivals.2 1 visitValuePlan es fs hsame⟩

end ExperimentQuery
