import ExperimentQuery.Proofs.Interpreter.Independence

/-!
# The totals of a group

A group is summed up over those of the users that count whose variation and dimension it has, in
the order of the users, each user being counted once.

* `finalState`: the state in which a user ends;
* `mem_countedUsers`, `nodup_countedUsers`: the users that are counted;
* `GroupTotals.ofUsers`: the totals of some users;
* **`find?_groupTotals`**: the totals of a group are those of its users;
* `GroupTotals.users_ofUsers`, `GroupTotals.counts_ofUsers`: how many there are;
* `experimentTotals`, **`find?_experimentTotals`**: the totals of an experiment by group;
* **`runExperiment_eq_totals`**: the rows are made of them.
-/

namespace ExperimentQuery

instance : IsStrictTotalOrder Group (· < ·) := by
  refine isStrictTotalOrder_of_pairLt (fun g => (g.variation, g.dimension)) ?_ fun _ _ => Iff.rfl
  rintro ⟨_, _⟩ ⟨_, _⟩ h
  obtain ⟨rfl, rfl⟩ := Prod.mk.inj h
  rfl

/-! ## Users -/

variable {p : ExperimentPlan} {es : List Event} {k : UserKey}

/-- The events that an experiment reads. -/
def ExperimentPlan.select (p : ExperimentPlan) (es : List Event) : List Event :=
  selectEvents p.selectors p.start p.stop p.concerns es

/-- The state in which a user ends. -/
def finalState (p : ExperimentPlan) (es : List Event) (k : UserKey) : UserState :=
  .afterEvents p (inTimeOrder (eventsOf p.userKey k (p.select es)))

theorem nodup_countedUsers (p : ExperimentPlan) (es : List Event) : (countedUsers p es).Nodup :=
  (increasing_includedUsers p (p.select es)).nodup

theorem find?_includedUsers_select :
    Ordered.find? k (includedUsers p (p.select es)) =
      if (finalState p es k).isIncluded then some (finalState p es k) else none :=
  find?_includedUsers p k (p.select es)

theorem mem_countedUsers : k ∈ countedUsers p es ↔ (finalState p es k).isIncluded := by
  rw [countedUsers, ← Ordered.isSome_find?]
  change (Ordered.find? k (includedUsers p (p.select es))).isSome ↔ _
  rw [find?_includedUsers_select]
  split_ifs with h <;> simp [h]

theorem includedUsers_select_eq :
    (includedUsers p (p.select es)).map (·.2) = (countedUsers p es).map (finalState p es) := by
  rw [countedUsers, List.map_map]
  refine List.map_congr_left fun u hu => ?_
  have hfind := (increasing_includedUsers p (p.select es)).find?_of_mem hu
  rw [find?_includedUsers_select] at hfind
  split_ifs at hfind with h
  exact (Option.some.inj hfind).symm

/-! ## Totals -/

section

variable {α : Type} [OfNat α 0] [Add α] [Mul α] {metrics : Nat} {numbers : UserState → List α}
  {states : List UserState}

/-- The totals of some users, each with a number for each metric. -/
def GroupTotals.ofUsers (metrics : Nat) (users : List (List α)) : GroupTotals α :=
  users.foldl .add (.empty metrics)

namespace GroupTotals

theorem ofUsers_append_singleton (users : List (List α)) (xs : List α) :
    ofUsers metrics (users ++ [xs]) = (ofUsers metrics users).add xs := by
  rw [ofUsers, List.foldl_append, List.foldl_cons, List.foldl_nil, ofUsers]

theorem users_ofUsers (users : List (List α)) : (ofUsers metrics users).users = users.length := by
  induction users using List.reverseRecOn with
  | nil => rfl
  | append_singleton users xs ih =>
    rw [ofUsers_append_singleton, add, ih, List.length_append, List.length_singleton]

omit [OfNat α 0] in
theorem counts_zipWith_push {ss : List (Summary α)} {xs : List α} (h : ss.length = xs.length) :
    (List.zipWith Summary.push ss xs).map Summary.count = (ss.map Summary.count).map (· + 1) :=
  List.ext_getElem (by simp [h]) fun i _ _ => by simp [Summary.push]

theorem counts_ofUsers {users : List (List α)} (h : ∀ xs ∈ users, xs.length = metrics) :
    (ofUsers metrics users).metrics.map Summary.count = List.replicate metrics users.length := by
  induction users using List.reverseRecOn with
  | nil => exact List.map_replicate
  | append_singleton users xs ih =>
    obtain ⟨husers, hxs⟩ := List.forall_mem_append.mp h
    have hcounts := ih husers
    have hlength : (ofUsers metrics users).metrics.length = xs.length := by
      rw [hxs xs List.mem_cons_self, ← List.length_map, hcounts, List.length_replicate]
    rw [ofUsers_append_singleton, add, counts_zipWith_push hlength, hcounts, List.map_replicate,
      List.length_append, List.length_singleton]

end GroupTotals

theorem groupTotals_of_included (h : ∀ s ∈ states, s.isIncluded) :
    groupTotals metrics numbers states =
      states.foldl (fun groups s => Ordered.update s.group
        (fun t => (t.getD (.empty metrics)).add (numbers s)) groups) [] :=
  List.foldl_ext _ _ _ fun groups s hs => addToGroups_of_included (h s hs) metrics numbers groups

theorem increasing_groupTotals (h : ∀ s ∈ states, s.isIncluded) :
    Ordered.Increasing (groupTotals metrics numbers states) := by
  rw [groupTotals_of_included h]
  exact Ordered.increasing_foldl_update _ _ states Ordered.increasing_nil

/-- **The totals of a group** are those of its users, and only groups with users have totals. -/
theorem find?_groupTotals (h : ∀ s ∈ states, s.isIncluded) (g : Group) :
    Ordered.find? g (groupTotals metrics numbers states) =
      (nonempty? ((states.filter (·.group = g)).map numbers)).map (.ofUsers metrics) := by
  rw [groupTotals_of_included h]
  refine (Ordered.find?_foldl_update UserState.group _ g states Ordered.increasing_nil).trans ?_
  have hsome : ∀ (members : List UserState) (t : GroupTotals α),
      members.foldl (fun b s => some ((b.getD (.empty metrics)).add (numbers s))) (some t) =
        some ((members.map numbers).foldl .add t) := by
    intro members
    induction members with
    | nil => intro t; rfl
    | cons s members ih => intro t; exact ih (t.add (numbers s))
  cases states.filter (·.group = g) with
  | nil => rfl
  | cons s members => exact hsome members _

end

/-! ## Experiments -/

section

variable {α : Type} [OfNat α 0] [Add α] [Mul α]

/-- The totals of an experiment, each number being read in some way as it is added up. -/
def experimentTotals (p : ExperimentPlan) (reading : Float → α) (es : List Event) :
    List (Group × GroupTotals α) :=
  groupTotals p.metrics.length (fun s => (UserState.aggregate p s).map reading)
    (userStates p (p.select es))

/-- The numbers that a user adds to the totals, one for each metric. -/
def userNumbers (p : ExperimentPlan) (reading : Float → α) (es : List Event) (k : UserKey) :
    List α :=
  (UserState.aggregate p (finalState p es k)).map reading

omit [OfNat α 0] [Add α] [Mul α] in
theorem length_userNumbers (p : ExperimentPlan) (reading : Float → α) (es : List Event)
    (k : UserKey) : (userNumbers p reading es k).length = p.metrics.length := by
  rw [userNumbers, List.length_map, finalState, aggregate_afterEvents, List.length_map]

/-- The users that are counted in a group. -/
def usersOf (p : ExperimentPlan) (es : List Event) (g : Group) : List UserKey :=
  (countedUsers p es).filter fun k => (finalState p es k).group = g

theorem experimentTotals_eq (p : ExperimentPlan) (reading : Float → α) (es : List Event) :
    experimentTotals p reading es =
      groupTotals p.metrics.length (fun s => (UserState.aggregate p s).map reading)
        ((countedUsers p es).map (finalState p es)) := by
  rw [experimentTotals, groupTotals_userStates, includedUsers_select_eq]

theorem isIncluded_of_mem_finalStates {s : UserState}
    (h : s ∈ (countedUsers p es).map (finalState p es)) : s.isIncluded := by
  obtain ⟨k, hk, rfl⟩ := List.mem_map.mp h
  exact mem_countedUsers.mp hk

theorem increasing_experimentTotals (p : ExperimentPlan) (reading : Float → α) (es : List Event) :
    Ordered.Increasing (experimentTotals p reading es) := by
  rw [experimentTotals_eq]
  exact increasing_groupTotals fun s => isIncluded_of_mem_finalStates

/-- **The totals of a group in an experiment** are those of its users. -/
theorem find?_experimentTotals (p : ExperimentPlan) (reading : Float → α) (es : List Event)
    (g : Group) :
    Ordered.find? g (experimentTotals p reading es) =
      (nonempty? ((usersOf p es g).map (userNumbers p reading es))).map
        (.ofUsers p.metrics.length) := by
  have hmembers : ((countedUsers p es).map (finalState p es)).filter (·.group = g) =
      (usersOf p es g).map (finalState p es) := List.filter_map
  rw [experimentTotals_eq, find?_groupTotals fun s => isIncluded_of_mem_finalStates, hmembers,
    List.map_map]
  rfl

end

/-- **The rows of an experiment** are made of its totals, the numbers being added up as they are. -/
theorem runExperiment_eq_totals (p : ExperimentPlan) (es : List Event) :
    runExperiment p es = (experimentTotals p id es).map (groupRow p) := by
  have hnumbers : (fun s => (UserState.aggregate p s).map id) = UserState.aggregate p :=
    funext fun s => List.map_id _
  rw [experimentTotals, hnumbers]
  rfl

end ExperimentQuery
