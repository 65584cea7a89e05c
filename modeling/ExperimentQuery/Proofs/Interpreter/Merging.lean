import ExperimentQuery.Proofs.Interpreter.Partition
import ExperimentQuery.Proofs.Interpreter.Timing

/-!
# Separate users

Two lists of events without a common user may be mixed in any way: an experiment on the mixture
gives what the experiments on the two lists give, merged group by group. Numbers of users add up,
and so do the sums as soon as addition is exact.

* `Interleaves`: a list that is made of two others;
* `finalState_cases`: a user of the mixture is a user of one list, and ends in the same state;
* `usersOf_perm`: the users of a group are those of both lists;
* `GroupTotals.merge`, `GroupTotals.ofUsers_append`: the totals of all these users;
* `RawExperimentRow.tally`: the group of a row and how many users it counts;
* **`runExperiment_interleaves`**: the rows of the mixture.
-/

namespace ExperimentQuery

/-! ## Mixtures -/

/-- The third list is made of the other two, each of which keeps its order. -/
inductive Interleaves {ι : Type} : List ι → List ι → List ι → Prop
  | nil : Interleaves [] [] []
  | left (x : ι) {xs ys zs : List ι} (h : Interleaves xs ys zs) : Interleaves (x :: xs) ys (x :: zs)
  | right (y : ι) {xs ys zs : List ι} (h : Interleaves xs ys zs) :
      Interleaves xs (y :: ys) (y :: zs)

namespace Interleaves

variable {ι : Type} {xs ys zs : List ι}

theorem append (xs ys : List ι) : Interleaves xs ys (xs ++ ys) := by
  induction xs with
  | cons x xs ih => exact .left x ih
  | nil =>
    induction ys with
    | nil => exact .nil
    | cons y ys ih => exact .right y ih

theorem filter (h : Interleaves xs ys zs) (keep : ι → Bool) :
    Interleaves (xs.filter keep) (ys.filter keep) (zs.filter keep) := by
  induction h with
  | nil => exact .nil
  | left x h ih =>
    rw [List.filter_cons, List.filter_cons]
    split_ifs
    · exact .left x ih
    · exact ih
  | right y h ih =>
    rw [List.filter_cons, List.filter_cons]
    split_ifs
    · exact .right y ih
    · exact ih

theorem eq_of_left_nil (h : Interleaves [] ys zs) : zs = ys := by
  generalize hxs : ([] : List ι) = xs at h
  induction h with
  | nil => rfl
  | left x h => exact nomatch hxs
  | right y h ih => rw [ih hxs]

theorem eq_of_right_nil (h : Interleaves xs [] zs) : zs = xs := by
  generalize hys : ([] : List ι) = ys at h
  induction h with
  | nil => rfl
  | left x h ih => rw [ih hys]
  | right y h => exact nomatch hys

end Interleaves

/-! ## Users of a mixture -/

variable {p : ExperimentPlan} {fs gs es : List Event}

/-- Two lists of events have no user in common. -/
def SeparateUsers (p : ExperimentPlan) (fs gs : List Event) : Prop :=
  ∀ f ∈ fs, ∀ g ∈ gs, userKey p.userKey f ≠ userKey p.userKey g

theorem not_isIncluded_of_no_events {k : UserKey} (h : eventsOf p.userKey k (p.select es) = []) :
    k ∉ countedUsers p es := by
  rw [mem_countedUsers, finalState, h, inTimeOrder_nil]
  exact Bool.false_ne_true

theorem SeparateUsers.eventsOf_eq_nil (h : SeparateUsers p fs gs) (k : UserKey) :
    eventsOf p.userKey k (p.select fs) = [] ∨ eventsOf p.userKey k (p.select gs) = [] := by
  rw [or_iff_not_imp_left]
  intro hf
  obtain ⟨f, hf⟩ := List.exists_mem_of_ne_nil _ hf
  obtain ⟨hfs, hkey⟩ := List.mem_filter.mp hf
  refine List.filter_eq_nil_iff.mpr fun g hg hkey' => ?_
  have hkeys := (of_decide_eq_true hkey).trans (of_decide_eq_true hkey').symm
  exact h f (List.mem_filter.mp hfs).1 g (List.mem_filter.mp hg).1 hkeys

section

variable (h : Interleaves fs gs es) (hseparate : SeparateUsers p fs gs)

include h hseparate

/-- A user of the mixture is a user of one list only, and ends in the same state. -/
theorem finalState_cases (k : UserKey) :
    (finalState p es k = finalState p fs k ∧ k ∉ countedUsers p gs) ∨
      (finalState p es k = finalState p gs k ∧ k ∉ countedUsers p fs) := by
  have hevents : Interleaves (eventsOf p.userKey k (p.select fs))
      (eventsOf p.userKey k (p.select gs)) (eventsOf p.userKey k (p.select es)) :=
    (h.filter _).filter _
  rcases hseparate.eventsOf_eq_nil k with hnil | hnil
  · refine .inr ⟨?_, not_isIncluded_of_no_events hnil⟩
    rw [hnil] at hevents
    rw [finalState, finalState, hevents.eq_of_left_nil]
  · refine .inl ⟨?_, not_isIncluded_of_no_events hnil⟩
    rw [hnil] at hevents
    rw [finalState, finalState, hevents.eq_of_right_nil]

theorem finalState_of_left {k : UserKey} (hk : k ∈ countedUsers p fs) :
    finalState p es k = finalState p fs k := by
  rcases finalState_cases h hseparate k with ⟨hstate, -⟩ | ⟨-, hnot⟩
  · exact hstate
  · exact absurd hk hnot

theorem finalState_of_right {k : UserKey} (hk : k ∈ countedUsers p gs) :
    finalState p es k = finalState p gs k := by
  rcases finalState_cases h hseparate k with ⟨-, hnot⟩ | ⟨hstate, -⟩
  · exact absurd hk hnot
  · exact hstate

theorem usersOf_perm (g : Group) :
    (usersOf p es g).Perm (usersOf p fs g ++ usersOf p gs g) := by
  have hmem : ∀ (ds : List Event) (k : UserKey), k ∈ usersOf p ds g ↔
      (finalState p ds k).isIncluded ∧ (finalState p ds k).group = g := by
    intro ds k
    rw [usersOf, List.mem_filter, mem_countedUsers, decide_eq_true_eq]
  have hnodup : ∀ ds : List Event, (usersOf p ds g).Nodup :=
    fun ds => (nodup_countedUsers p ds).filter _
  have hdisjoint : ∀ k ∈ usersOf p fs g, ∀ k' ∈ usersOf p gs g, k ≠ k' := by
    rintro k hk _ hk' rfl
    have hfs := (List.mem_filter.mp hk).1
    have hgs := (List.mem_filter.mp hk').1
    rcases finalState_cases h hseparate k with ⟨-, hnot⟩ | ⟨-, hnot⟩
    · exact hnot hgs
    · exact hnot hfs
  refine (List.perm_ext_iff_of_nodup (hnodup es)
    (List.nodup_append.mpr ⟨hnodup fs, hnodup gs, hdisjoint⟩)).mpr fun k => ?_
  rw [List.mem_append, hmem, hmem, hmem]
  rcases finalState_cases h hseparate k with ⟨hstate, hnot⟩ | ⟨hstate, hnot⟩
  · rw [mem_countedUsers] at hnot
    rw [hstate]
    simp [hnot]
  · rw [mem_countedUsers] at hnot
    rw [hstate]
    simp [hnot]

theorem map_userNumbers_perm {α : Type} (reading : Float → α) (g : Group) :
    ((usersOf p es g).map (userNumbers p reading es)).Perm
      ((usersOf p fs g).map (userNumbers p reading fs) ++
        (usersOf p gs g).map (userNumbers p reading gs)) := by
  have hleft : (usersOf p fs g).map (userNumbers p reading es) =
      (usersOf p fs g).map (userNumbers p reading fs) := by
    refine List.map_congr_left fun k hk => ?_
    rw [userNumbers, userNumbers, finalState_of_left h hseparate (List.mem_filter.mp hk).1]
  have hright : (usersOf p gs g).map (userNumbers p reading es) =
      (usersOf p gs g).map (userNumbers p reading gs) := by
    refine List.map_congr_left fun k hk => ?_
    rw [userNumbers, userNumbers, finalState_of_right h hseparate (List.mem_filter.mp hk).1]
  rw [← hleft, ← hright, ← List.map_append]
  exact (usersOf_perm h hseparate g).map _

end

/-! ## Exact totals -/

namespace GroupTotals

variable {α : Type} [AddCommMonoid α] [Mul α] {metrics : Nat}

/-- The totals of two groups of users. -/
def merge (t u : GroupTotals α) : GroupTotals α :=
  ⟨t.users + u.users, List.zipWith Summary.merge t.metrics u.metrics⟩

theorem add_swap (t : GroupTotals α) (xs ys : List α) :
    (t.add xs).add ys = (t.add ys).add xs := by
  have hmetrics : List.zipWith Summary.push (List.zipWith Summary.push t.metrics xs) ys =
      List.zipWith Summary.push (List.zipWith Summary.push t.metrics ys) xs := by
    refine List.ext_getElem (by simp only [List.length_zipWith]; omega) fun i _ _ => ?_
    simp [Summary.push, add_right_comm]
  rw [add, add, add, add, hmetrics]

/-- In exact arithmetic the order of the users does not matter. -/
theorem ofUsers_eq_of_perm {us vs : List (List α)} (h : us.Perm vs) :
    ofUsers metrics us = ofUsers metrics vs :=
  h.foldl_eq' (fun xs _ ys _ t => add_swap t xs ys) _

theorem length_metrics_ofUsers {us : List (List α)} (h : ∀ xs ∈ us, xs.length = metrics) :
    (ofUsers metrics us).metrics.length = metrics := by
  rw [← List.length_map, counts_ofUsers h, List.length_replicate]

omit [Mul α] in
theorem merge_empty {t : GroupTotals α} (h : t.metrics.length = metrics) :
    t.merge (.empty metrics) = t := by
  have hmetrics : List.zipWith Summary.merge t.metrics (List.replicate metrics .empty) =
      t.metrics := by
    refine List.ext_getElem (by simp [h]) fun i _ _ => ?_
    simp [Summary.merge, Summary.empty]
  rw [merge, empty, hmetrics]
  rfl

theorem merge_add (t u : GroupTotals α) (xs : List α) :
    t.merge (u.add xs) = (t.merge u).add xs := by
  have hmetrics : List.zipWith Summary.merge t.metrics (List.zipWith Summary.push u.metrics xs) =
      List.zipWith Summary.push (List.zipWith Summary.merge t.metrics u.metrics) xs := by
    refine List.ext_getElem (by simp [Nat.min_assoc]) fun i _ _ => ?_
    simp [Summary.push, Summary.merge, add_assoc]
  rw [merge, add, add, merge, hmetrics]
  rfl

/-- **The totals of all users** are those of both parts, merged. -/
theorem ofUsers_append {us : List (List α)} (h : ∀ xs ∈ us, xs.length = metrics)
    (vs : List (List α)) :
    ofUsers metrics (us ++ vs) = (ofUsers metrics us).merge (ofUsers metrics vs) := by
  induction vs using List.reverseRecOn with
  | nil =>
    rw [List.append_nil]
    exact (merge_empty (length_metrics_ofUsers h)).symm
  | append_singleton vs xs ih =>
    rw [← List.append_assoc, ofUsers_append_singleton, ih, ofUsers_append_singleton, merge_add]

end GroupTotals

/-! ## The experiment on a mixture -/

theorem map_nonempty?_of_perm {ι β : Type} {f : List ι → β} {op : β → β → β}
    {all xs ys : List ι} (h : all.Perm (xs ++ ys)) (hperm : f all = f (xs ++ ys))
    (happend : f (xs ++ ys) = op (f xs) (f ys)) :
    (nonempty? all).map f =
      Option.merge op ((nonempty? xs).map f) ((nonempty? ys).map f) := by
  have hall : (nonempty? all).map f = (nonempty? (xs ++ ys)).map f := by
    unfold nonempty?
    rw [h.isEmpty_eq]
    split_ifs
    · rfl
    · exact congrArg some hperm
  rw [hall]
  cases xs with
  | nil => cases ys <;> rfl
  | cons x xs =>
    cases ys with
    | nil =>
      rw [List.append_nil]
      rfl
    | cons y ys => exact congrArg some happend

section

variable (h : Interleaves fs gs es) (hseparate : SeparateUsers p fs gs)

include h hseparate

/-- **The exact totals of a mixture** are those of both lists, merged. -/
theorem experimentTotals_of_interleaves {α : Type} [AddCommMonoid α] [Mul α]
    (reading : Float → α) :
    experimentTotals p reading es =
      Ordered.mergeWith GroupTotals.merge (experimentTotals p reading fs)
        (experimentTotals p reading gs) := by
  have hfs := increasing_experimentTotals p reading fs
  have hgs := increasing_experimentTotals p reading gs
  refine (increasing_experimentTotals p reading es).ext
    (Ordered.increasing_mergeWith _ hfs _) fun g => ?_
  have hperm := map_userNumbers_perm h hseparate reading g
  have hlength : ∀ xs ∈ (usersOf p fs g).map (userNumbers p reading fs),
      xs.length = p.metrics.length :=
    List.forall_mem_map.mpr fun k _ => length_userNumbers p reading fs k
  rw [Ordered.find?_mergeWith _ hfs hgs, find?_experimentTotals, find?_experimentTotals,
    find?_experimentTotals]
  exact map_nonempty?_of_perm hperm (GroupTotals.ofUsers_eq_of_perm hperm)
    (GroupTotals.ofUsers_append hlength _)

end

/-! ## Rows -/

/-- How many users a row counts, and how many each of its summaries. -/
structure Tally where
  users : Nat
  metrics : List Nat
  deriving Repr, DecidableEq

/-- The users of two rows. -/
def Tally.merge (a b : Tally) : Tally :=
  ⟨a.users + b.users, List.zipWith (· + ·) a.metrics b.metrics⟩

/-- The group of a row, and how many users it counts. -/
def RawExperimentRow.tally (r : RawExperimentRow) : Group × Tally :=
  (⟨labelText r.variation, labelText r.dimension⟩, ⟨r.users, r.metrics.map (·.count)⟩)

/-- The tally of a row in which all summaries of a plan count the same users. -/
def Tally.ofUsers (p : ExperimentPlan) (users : List UserKey) : Tally :=
  ⟨users.length, List.replicate p.metrics.length users.length⟩

theorem RawExperimentRow.Counts.tally_eq {r : RawExperimentRow} {g : Group} {ks : List UserKey}
    (h : r.Counts p g ks.length) : r.tally = (g, .ofUsers p ks) := by
  have hcounts := congrArg (List.map fun m => m.2.2) h.metrics
  rw [List.map_map, List.map_map] at hcounts
  have hmetrics : r.metrics.map (·.count) = List.replicate p.metrics.length ks.length :=
    hcounts.trans List.map_const
  rw [RawExperimentRow.tally, h.variation, h.dimension, h.users, hmetrics]
  rfl

theorem map_tally_runExperiment (p : ExperimentPlan) (es : List Event) :
    (runExperiment p es).map (·.tally) =
      (groupsOf p es).map fun g => (g, Tally.ofUsers p (usersOf p es g)) := by
  have hrows : List.Forall₂ (· = ·)
      ((groupsOf p es).map fun g => (g, Tally.ofUsers p (usersOf p es g)))
      ((runExperiment p es).map (·.tally)) := by
    rw [List.forall₂_map_left_iff, List.forall₂_map_right_iff]
    exact (forall₂_groupsOf p es).imp fun g r h => h.tally_eq.symm
  rw [List.forall₂_eq_eq_eq] at hrows
  exact hrows.symm

theorem increasing_tallies (p : ExperimentPlan) (es : List Event) :
    Ordered.Increasing ((runExperiment p es).map (·.tally)) := by
  rw [map_tally_runExperiment]
  exact List.pairwise_map.mpr (pairwise_groupsOf p es)

theorem find?_tallies (p : ExperimentPlan) (es : List Event) (g : Group) :
    Ordered.find? g ((runExperiment p es).map (·.tally)) =
      (nonempty? (usersOf p es g)).map (.ofUsers p) := by
  rw [map_tally_runExperiment, Ordered.find?_map_pair]
  simp only [mem_groupsOf]
  cases usersOf p es g <;> rfl

theorem tallies_of_interleaves (h : Interleaves fs gs es) (hseparate : SeparateUsers p fs gs) :
    (runExperiment p es).map (·.tally) =
      Ordered.mergeWith Tally.merge ((runExperiment p fs).map (·.tally))
        ((runExperiment p gs).map (·.tally)) := by
  have hfs := increasing_tallies p fs
  have hgs := increasing_tallies p gs
  refine (increasing_tallies p es).ext (Ordered.increasing_mergeWith _ hfs _) fun g => ?_
  have hperm := usersOf_perm h hseparate g
  have htally : ∀ ks ks' : List UserKey,
      Tally.ofUsers p (ks ++ ks') = (Tally.ofUsers p ks).merge (.ofUsers p ks') := by
    intro ks ks'
    rw [Tally.ofUsers, Tally.ofUsers, Tally.ofUsers, Tally.merge, List.zipWith_replicate,
      List.length_append, Nat.min_self]
  rw [Ordered.find?_mergeWith _ hfs hgs, find?_tallies, find?_tallies, find?_tallies]
  refine map_nonempty?_of_perm hperm ?_ (htally _ _)
  rw [Tally.ofUsers, Tally.ofUsers, hperm.length_eq]

/-- **Users do not influence each other.** The rows of an experiment on two lists of events without a
common user, one after the other or mixed in any way, are those on the lists, merged group by group:
numbers of users add up, and so do sums and sums of squares, whatever the numbers are read as, if
addition is exact. -/
theorem runExperiment_interleaves (p : ExperimentPlan) (fs gs : List Event)
    (hseparate : SeparateUsers p fs gs) :
    Interleaves fs gs (fs ++ gs) ∧
      (∀ es, Interleaves fs gs es →
        (runExperiment p es).map (·.tally) =
            Ordered.mergeWith Tally.merge ((runExperiment p fs).map (·.tally))
              ((runExperiment p gs).map (·.tally)) ∧
          ∀ {α : Type} [AddCommMonoid α] [Mul α] (reading : Float → α),
            experimentTotals p reading es =
              Ordered.mergeWith GroupTotals.merge (experimentTotals p reading fs)
                (experimentTotals p reading gs)) ∧
      ∀ ds, runExperiment p ds = (experimentTotals p id ds).map (groupRow p) :=
  ⟨Interleaves.append fs gs,
    fun _ h => ⟨tallies_of_interleaves h hseparate, experimentTotals_of_interleaves h hseparate⟩,
    runExperiment_eq_totals p⟩

/-- The plan of an experiment with a banner and a metric without delay. -/
def bannerPlan : ExperimentPlan :=
  { ExperimentPlan.build bannerSettings [] none none with
    metrics := [{ MetricStep.ofMetric clickMetric bannerSettings.stop with delayMillis := 0 }] }

/-- The event with which someone enters the experiment. -/
def bannerVisitor (distinctId : String) : Event := { bannerExposure 4000 with distinctId }

theorem runExperiment_interleaves_visitors :
    let fs := [bannerVisitor "a", bannerVisitor "c"]
    let gs := [bannerVisitor "b"]
    let es := [bannerVisitor "a", bannerVisitor "b", bannerVisitor "c"]
    SeparateUsers bannerPlan fs gs ∧ Interleaves fs gs es ∧
      (runExperiment bannerPlan es).map (·.tally) = [(⟨"1", ""⟩, ⟨3, [3]⟩)] := by
  intro fs gs es
  have hseparate : SeparateUsers bannerPlan fs gs := by
    unfold SeparateUsers
    decide
  have hmixed : Interleaves fs gs es := .left _ (.right _ (.left _ .nil))
  have hsort : ∀ name, inTimeOrder [bannerVisitor name] = [bannerVisitor name] :=
    fun name => List.mergeSort_singleton _
  have hfs : (runExperiment bannerPlan fs).map (·.tally) = [(⟨"1", ""⟩, ⟨2, [2]⟩)] := by
    have hgroups : groupByUser bannerPlan.userKey (bannerPlan.select fs) =
        [(⟨"a", ""⟩, inTimeOrder [bannerVisitor "a"]),
          (⟨"c", ""⟩, inTimeOrder [bannerVisitor "c"])] := by rfl
    rw [runExperiment_eq_totals, experimentTotals, userStates, hgroups, hsort, hsort]
    rfl
  have hgs : (runExperiment bannerPlan gs).map (·.tally) = [(⟨"1", ""⟩, ⟨1, [1]⟩)] := by
    have hgroups : groupByUser bannerPlan.userKey (bannerPlan.select gs) =
        [(⟨"b", ""⟩, inTimeOrder [bannerVisitor "b"])] := by rfl
    rw [runExperiment_eq_totals, experimentTotals, userStates, hgroups, hsort]
    rfl
  have hrows := ((runExperiment_interleaves bannerPlan fs gs hseparate).2.1 es hmixed).1
  rw [hfs, hgs] at hrows
  exact ⟨hseparate, hmixed, hrows⟩

end ExperimentQuery
