import ExperimentQuery.Proofs.Interpreter.Grouping
import ExperimentQuery.Proofs.Interpreter.Relevance

/-!
# The users that count

The rows of an experiment sum up the users that count, and these come from all the events on the
days of the experiment: neither the selected names nor the test of single events loses any.

* `includedUsers`: the users that count with their final states;
* `includedUsers_filter_concerns`: events that do not matter may be left out;
* `groupTotals_userStates`: only the users that count are summed up;
* `ExperimentPlan.selectsRelevant_build`: a plan selects the names of all events that matter;
* **`runExperiment_eq`**: the rows come from all the events on the days;
* **`runExperiment_build_eq_runOnDays`**: so they do for a plan that is built, and events that do not
  matter may come and go.
-/

namespace ExperimentQuery

variable {p : ExperimentPlan} {e : Event}

/-! ## Included users -/

/-- The final state of a user, if the user counts. -/
def includedState? (p : ExperimentPlan) (es : List Event) : Option UserState :=
  if (UserState.afterEvents p es).isIncluded then some (UserState.afterEvents p es) else none

/-- The users that count with their final states, in order of the users. -/
def includedUsers (p : ExperimentPlan) (es : List Event) : List (UserKey × UserState) :=
  (groupByUser p.userKey es).filterMap fun u => (includedState? p u.2).map fun s => (u.1, s)

theorem includedState?_nil (p : ExperimentPlan) : includedState? p [] = none := rfl

theorem increasing_includedUsers (p : ExperimentPlan) (es : List Event) :
    Ordered.Increasing (includedUsers p es) :=
  (increasing_groupByUser p.userKey es).filterMap (includedState? p)

theorem find?_includedUsers (p : ExperimentPlan) (k : UserKey) (es : List Event) :
    Ordered.find? k (includedUsers p es) =
      includedState? p (inTimeOrder (eventsOf p.userKey k es)) := by
  rw [includedUsers, Ordered.find?_filterMap (increasing_groupByUser p.userKey es),
    find?_groupByUser]
  cases hevents : eventsOf p.userKey k es with
  | nil => rw [inTimeOrder_nil, includedState?_nil]; rfl
  | cons e es => rfl

theorem includedState?_filter_concerns (p : ExperimentPlan) (es : List Event) :
    includedState? p (es.filter p.concerns) = includedState? p es := by
  have hrelevant : UserState.afterEvents p (es.filter p.concerns) =
      (UserState.afterEvents p es).relevant p :=
    Progress.afterEvents_filter_concerns p es
  have hincluded : ((UserState.afterEvents p es).relevant p).isIncluded =
      (UserState.afterEvents p es).isIncluded := rfl
  unfold includedState?
  rw [hrelevant, hincluded]
  by_cases h : (UserState.afterEvents p es).isIncluded
  · have hactive : (UserState.afterEvents p es).phase = .active :=
      of_decide_eq_true (Bool.and_eq_true_iff.mp h).1
    have hbacklog : (UserState.afterEvents p es).backlog = none :=
      Progress.backlog_of_active p es hactive
    rw [if_pos h, if_pos h, Progress.relevant, hbacklog, Option.map_none, ← hbacklog]
  · rw [if_neg h, if_neg h]

/-- **Irrelevant events may be left out** without an effect on the users that count. -/
theorem includedUsers_filter_concerns (p : ExperimentPlan) (es : List Event) :
    includedUsers p (es.filter p.concerns) = includedUsers p es := by
  refine (increasing_includedUsers p _).ext (increasing_includedUsers p es) fun k => ?_
  have hcomm : eventsOf p.userKey k (es.filter p.concerns) =
      (eventsOf p.userKey k es).filter p.concerns := filter_comm _ p.concerns es
  rw [find?_includedUsers, find?_includedUsers, hcomm, ← filter_inTimeOrder,
    includedState?_filter_concerns]

/-! ## Groups -/

section

variable {α : Type} [OfNat α 0] [Add α] [Mul α]

theorem addToGroups_of_included {s : UserState} (h : s.isIncluded) (metrics : Nat)
    (numbers : UserState → List α) (groups : List (Group × GroupTotals α)) :
    addToGroups metrics numbers groups s =
      Ordered.update s.group (fun t => (t.getD (.empty metrics)).add (numbers s)) groups := by
  rw [addToGroups, if_pos h]

theorem addToGroups_of_not_included {s : UserState} (h : ¬ s.isIncluded) (metrics : Nat)
    (numbers : UserState → List α) (groups : List (Group × GroupTotals α)) :
    addToGroups metrics numbers groups s = groups := by
  rw [addToGroups, if_neg h]

theorem groupTotals_userStates (metrics : Nat) (numbers : UserState → List α) (p : ExperimentPlan)
    (es : List Event) :
    groupTotals metrics numbers (userStates p es) =
      groupTotals metrics numbers ((includedUsers p es).map (·.2)) := by
  unfold groupTotals userStates includedUsers
  generalize groupByUser p.userKey es = users
  generalize ([] : List (Group × GroupTotals α)) = groups
  induction users generalizing groups with
  | nil => rfl
  | cons u users ih =>
    rw [List.map_cons, List.foldl_cons, List.filterMap_cons, ih]
    by_cases h : (UserState.afterEvents p u.2).isIncluded
    · rw [includedState?, if_pos h, Option.map_some, List.map_cons, List.foldl_cons]
    · rw [includedState?, if_neg h, Option.map_none, addToGroups_of_not_included h]

end

/-! ## Selection -/

/-- Every relevant event has a selected name. -/
def ExperimentPlan.SelectsRelevant (p : ExperimentPlan) : Prop :=
  ∀ e, p.concerns e → p.selectors.contains e.name

/-- The events on the days of an experiment. -/
def ExperimentPlan.onDays (p : ExperimentPlan) (es : List Event) : List Event :=
  es.filter (inDays p.start p.stop)

theorem selectEvents_eq (hp : p.SelectsRelevant) (es : List Event) :
    selectEvents p.selectors p.start p.stop p.concerns es = (p.onDays es).filter p.concerns := by
  rw [ExperimentPlan.onDays, List.filter_filter, selectEvents]
  refine List.filter_congr fun e _ => ?_
  cases he : p.concerns e with
  | false => simp
  | true => rw [hp e he, Bool.true_and, Bool.and_true]

/-- The users that the rows of an experiment count. -/
def countedUsers (p : ExperimentPlan) (es : List Event) : List UserKey :=
  (includedUsers p (selectEvents p.selectors p.start p.stop p.concerns es)).map (·.1)

/-- The users that count come from all the events on the days of the experiment. -/
theorem includedUsers_selectEvents (hp : p.SelectsRelevant) (es : List Event) :
    includedUsers p (selectEvents p.selectors p.start p.stop p.concerns es) =
      includedUsers p (p.onDays es) := by
  rw [selectEvents_eq hp, includedUsers_filter_concerns]

/-- **The rows of an experiment** come from all the events on its days. -/
theorem runExperiment_eq (hp : p.SelectsRelevant) (es : List Event) :
    runExperiment p es =
      (groupTotals p.metrics.length (UserState.aggregate p) (userStates p (p.onDays es))).map
        (groupRow p) := by
  unfold runExperiment
  dsimp only
  rw [groupTotals_userStates, includedUsers_selectEvents hp, ← groupTotals_userStates]

theorem EventPredicate.mem_names_of_accepts {q : EventPredicate} (h : q.accepts e) :
    e.name ∈ q.names :=
  List.contains_iff_mem.mp (Bool.and_eq_true_iff.mp h).1

theorem ExperimentPlan.selectsRelevant_build (s : ExperimentSettings) (ms : List Metric)
    (activation : Option Metric) (dimension : Option Dimension) :
    (build s ms activation dimension).SelectsRelevant := by
  intro e he
  refine List.contains_iff_mem.mpr (Ordered.mem_keys.mpr ?_)
  simp only [ExperimentPlan.concerns, Bool.or_eq_true] at he
  rcases he with (he | he) | he
  · have hname : e.name = s.exposureEvent := by
      simp only [ExposurePredicate.accepts, Bool.and_eq_true] at he
      exact beq_iff_eq.mp he.1.1.1
    rw [hname]
    exact List.mem_cons_self
  · refine List.mem_cons_of_mem _ (List.mem_flatMap.mpr ?_)
    cases activation with
    | none => exact absurd he Bool.false_ne_true
    | some m =>
      exact ⟨s.applyOverrides m, by simp, EventPredicate.mem_names_of_accepts he⟩
  · refine List.mem_cons_of_mem _ (List.mem_flatMap.mpr ?_)
    obtain ⟨step, hstep, he⟩ := List.any_eq_true.mp he
    obtain ⟨m, hm, rfl⟩ := List.mem_map.mp hstep
    exact ⟨m, List.mem_append_left _ hm, EventPredicate.mem_names_of_accepts he⟩

/-! ## Nothing is lost -/

/-- The rows from all the events on the days of an experiment: no names are selected, and no event
is tested before the users observe it. -/
def runOnDays (p : ExperimentPlan) (es : List Event) : List RawExperimentRow :=
  (groupTotals p.metrics.length (UserState.aggregate p) (userStates p (p.onDays es))).map
    (groupRow p)

theorem selectEvents_filter_concerns (p : ExperimentPlan) (es : List Event) :
    selectEvents p.selectors p.start p.stop p.concerns (es.filter p.concerns) =
      selectEvents p.selectors p.start p.stop p.concerns es := by
  rw [selectEvents, selectEvents, List.filter_filter]
  refine List.filter_congr fun e _ => ?_
  rw [Bool.and_assoc, Bool.and_self]

theorem runExperiment_filter_concerns (p : ExperimentPlan) (es : List Event) :
    runExperiment p (es.filter p.concerns) = runExperiment p es := by
  unfold runExperiment
  rw [selectEvents_filter_concerns]

/-- **Selection loses no event that matters.** The rows of a plan that is built are those from all
the events on its days. They stay the same when events that are no exposure, activate nobody and
match no metric come in or go out at any place. -/
theorem runExperiment_build_eq_runOnDays (s : ExperimentSettings) (ms : List Metric)
    (activation : Option Metric) (dimension : Option Dimension) (es : List Event) :
    let p := ExperimentPlan.build s ms activation dimension
    runExperiment p es = runOnDays p es ∧
      ∀ fs, es.filter p.concerns = fs.filter p.concerns →
        runExperiment p es = runExperiment p fs := by
  intro p
  refine ⟨runExperiment_eq (ExperimentPlan.selectsRelevant_build s ms activation dimension) es,
    fun fs h => ?_⟩
  rw [← runExperiment_filter_concerns p es, h, runExperiment_filter_concerns]

/-- A metric of the clicks on a banner. -/
def clickMetric : Metric :=
  { id := "fact__clicks"
    name := "Clicks"
    kind := .count
    events := "click"
    numerator := { factTable := "clicks" } }

/-- An experiment with a banner. -/
def bannerSettings : ExperimentSettings :=
  { experimentId := "banner", start := ⟨0, 0⟩, stop := ⟨864000, 0⟩ }

/-- An event of a user. -/
def userEvent (name : String) (time : Int) : Event := { name, time, distinctId := "u" }

/-- The event with which a user enters the experiment with a banner. -/
def bannerExposure (time : Int) : Event :=
  { userEvent defaultExposureEvent time with
    properties := [(defaultExperimentIdProperty, .str "banner"),
      (defaultVariationIdProperty, .str "1")] }

theorem runExperiment_build_eq_runOnDays_scroll :
    let p := ExperimentPlan.build bannerSettings [clickMetric] none none
    let es := [bannerExposure 4000, userEvent "click" 5000]
    let fs := [userEvent "scroll" 3000, bannerExposure 4000, userEvent "click" 5000,
      userEvent "scroll" 7000]
    es.filter p.concerns = fs.filter p.concerns ∧ runExperiment p es = runOnDays p es ∧
      runExperiment p es = runExperiment p fs ∧ (runExperiment p fs).map (·.users) = [1] := by
  intro p es fs
  have hsame : es.filter p.concerns = fs.filter p.concerns := by rfl
  have hrun := runExperiment_build_eq_runOnDays bannerSettings [clickMetric] none none es
  have husers : (runExperiment p es).map (·.users) = [1] := by
    have hselected : selectEvents p.selectors p.start p.stop p.concerns es = es := by rfl
    have huser : p.userKey = none := rfl
    have hgroups : groupByUser none es = [(⟨"u", ""⟩, inTimeOrder es)] := by rfl
    have hsorted : inTimeOrder es = es := by
      simp [es, inTimeOrder, List.mergeSort, userEvent, bannerExposure]
    rw [runExperiment, userStates, hselected, huser, hgroups, hsorted]
    rfl
  exact ⟨hsame, hrun.1, hrun.2 fs hsame, hrun.2 fs hsame ▸ husers⟩

end ExperimentQuery
