import ExperimentQuery.Proofs.Interpreter.Totals
import Mathlib

/-!
# Rows partition the users

Every user that is counted is counted in the row of one group, and a row counts its users in each of
its summaries. Decoding the rows keeps this.

* `RawExperimentRow.Counts`, `SummaryRow.Counts`: a row counts some number of users of a group;
* `RawExperimentRow.Counts.decode`: decoding keeps what a row counts;
* `sum_length_usersOf`: the users of all groups add up to the users that are counted;
* **`runExperiment_partitions`**: the rows of an experiment.
-/

namespace ExperimentQuery

variable {p : ExperimentPlan} {es : List Event}

/-! ## Rows of a plan -/

/-- A row counts some number of users of a group: it has a summary for each metric of the plan, in
the order of the plan, and each of them counts all of these users. -/
structure RawExperimentRow.Counts (p : ExperimentPlan) (r : RawExperimentRow) (g : Group)
    (n : Nat) : Prop where
  variation : r.variation = .str g.variation
  dimension : r.dimension = .str g.dimension
  users : r.users = n
  metrics : r.metrics.map (fun m => (m.id, m.kind, m.count)) =
    p.metrics.map fun m => (m.id, m.kind, n)

/-- A decoded row counts some number of users of a group. -/
structure SummaryRow.Counts (p : ExperimentPlan) (r : SummaryRow) (g : Group) (n : Nat) :
    Prop where
  variation : r.variation = g.variation
  dimension : r.dimension = g.dimension
  users : r.users = n
  metrics : r.metrics.map (fun m => (m.metric, m.kind, m.count, m.users)) =
    p.metrics.map fun m => (m.id, m.kind, n, n)

theorem RawExperimentRow.Counts.decode {r : RawExperimentRow} {g : Group} {n : Nat}
    (h : r.Counts p g n) : r.decode.Counts p g n := by
  refine ⟨congrArg labelText h.variation, congrArg labelText h.dimension, h.users, ?_⟩
  have hmetrics := congrArg (List.map fun m => (m.1, m.2.1, m.2.2, n)) h.metrics
  rw [List.map_map, List.map_map] at hmetrics
  rw [RawExperimentRow.decode, h.users, List.map_map]
  exact hmetrics

/-- The row of a group counts its users, each of whom has a number for each metric. -/
theorem counts_groupRow (p : ExperimentPlan) (g : Group) {users : List (List Float)}
    (h : ∀ xs ∈ users, xs.length = p.metrics.length) :
    (groupRow p (g, .ofUsers p.metrics.length users)).Counts p g users.length := by
  refine ⟨rfl, rfl, GroupTotals.users_ofUsers users, ?_⟩
  have hcounts : List.zipWith (fun m n => (m.id, m.kind, n)) p.metrics
      ((GroupTotals.ofUsers p.metrics.length users).metrics.map Summary.count) =
        p.metrics.map fun m => (m.id, m.kind, users.length) := by
    rw [GroupTotals.counts_ofUsers h, ← List.map_const, List.zipWith_map_right, List.zipWith_self]
    rfl
  rw [← hcounts, List.zipWith_map_right, groupRow, List.map_zipWith]
  rfl

/-! ## Groups -/

/-- The groups in which users are counted, in order. -/
def groupsOf (p : ExperimentPlan) (es : List Event) : List Group :=
  (experimentTotals p id es).map (·.1)

theorem pairwise_groupsOf (p : ExperimentPlan) (es : List Event) :
    (groupsOf p es).Pairwise (· < ·) :=
  List.pairwise_map.mpr (increasing_experimentTotals p id es)

theorem mem_groupsOf {g : Group} : g ∈ groupsOf p es ↔ usersOf p es g ≠ [] := by
  rw [groupsOf, ← Ordered.isSome_find?, find?_experimentTotals]
  cases usersOf p es g <;> simp [nonempty?]

theorem nodup_groupsOf (p : ExperimentPlan) (es : List Event) : (groupsOf p es).Nodup :=
  (increasing_experimentTotals p id es).nodup

theorem group_mem_groupsOf {k : UserKey} (hk : k ∈ countedUsers p es) :
    (finalState p es k).group ∈ groupsOf p es :=
  mem_groupsOf.mpr (List.ne_nil_of_mem (List.mem_filter.mpr ⟨hk, decide_eq_true rfl⟩))

theorem sum_length_usersOf (p : ExperimentPlan) (es : List Event) :
    ((groupsOf p es).map fun g => (usersOf p es g).length).sum = (countedUsers p es).length := by
  have hgroups : (groupsOf p es).Perm
      ((countedUsers p es).map fun k => (finalState p es k).group).dedup := by
    refine (List.perm_ext_iff_of_nodup (nodup_groupsOf p es) (List.nodup_dedup _)).mpr fun g => ?_
    rw [List.mem_dedup, List.mem_map]
    constructor
    · intro hg
      obtain ⟨k, hk⟩ := List.exists_mem_of_ne_nil _ (mem_groupsOf.mp hg)
      obtain ⟨hmem, hgroup⟩ := List.mem_filter.mp hk
      exact ⟨k, hmem, of_decide_eq_true hgroup⟩
    · rintro ⟨k, hk, rfl⟩
      exact group_mem_groupsOf hk
  have hlength : ∀ g, (usersOf p es g).length =
      ((countedUsers p es).map fun k => (finalState p es k).group).count g := by
    intro g
    rw [List.count, List.countP_map, usersOf, ← List.countP_eq_length_filter]
    rfl
  simp only [hlength]
  rw [(hgroups.map _).sum_eq, List.sum_map_count_dedup_eq_length, List.length_map]

theorem forall₂_groupsOf (p : ExperimentPlan) (es : List Event) :
    List.Forall₂ (fun g r => r.Counts p g (usersOf p es g).length) (groupsOf p es)
      (runExperiment p es) := by
  rw [groupsOf, runExperiment_eq_totals, List.forall₂_map_left_iff, List.forall₂_map_right_iff,
    List.forall₂_same]
  intro t ht
  have hfind := (increasing_experimentTotals p id es).find?_of_mem ht
  rw [find?_experimentTotals] at hfind
  obtain ⟨xs, hxs, htotals⟩ := Option.map_eq_some_iff.mp hfind
  obtain rfl := eq_of_nonempty?_eq_some hxs
  have hnumbers : ∀ xs ∈ (usersOf p es t.1).map (userNumbers p id es),
      xs.length = p.metrics.length :=
    List.forall_mem_map.mpr fun k _ => length_userNumbers p id es k
  have hcounts := counts_groupRow p t.1 hnumbers
  rwa [htotals, List.length_map] at hcounts

/-- **The rows of an experiment partition the users that are counted**, who are those that end
included. The groups of the rows increase, each user is counted in one row, that of the user's
group, and no row is without users; so their users add up. Decoding the rows keeps this. -/
theorem runExperiment_partitions (p : ExperimentPlan) (es : List Event) :
    let users := countedUsers p es
    let group := fun k => (finalState p es k).group
    let rows := runExperiment p es
    (users.Nodup ∧ ∀ k, k ∈ users ↔ (finalState p es k).isIncluded) ∧
      ∃ groups : List Group, groups.Pairwise (· < ·) ∧
        (∀ k ∈ users, groups.count (group k) = 1) ∧
        (∀ g ∈ groups, 0 < users.countP (group · = g)) ∧
        List.Forall₂ (fun g r => r.Counts p g (users.countP (group · = g))) groups rows ∧
        List.Forall₂ (fun g r => r.Counts p g (users.countP (group · = g))) groups
          (decodeExperimentRows rows) ∧
        (rows.map (·.users)).sum = users.length ∧
        ((decodeExperimentRows rows).map (·.users)).sum = users.length := by
  intro users group rows
  have hlength : ∀ g, users.countP (group · = g) = (usersOf p es g).length :=
    fun g => List.countP_eq_length_filter
  have hrows : List.Forall₂ (fun g r => r.Counts p g (users.countP (group · = g)))
      (groupsOf p es) rows := by
    simpa only [hlength] using forall₂_groupsOf p es
  have hdecoded : List.Forall₂ (fun g r => r.Counts p g (users.countP (group · = g)))
      (groupsOf p es) (decodeExperimentRows rows) :=
    List.forall₂_map_right_iff.mpr (hrows.imp fun g r h => h.decode)
  have hsum : (rows.map (·.users)).sum = users.length := by
    have husers : List.Forall₂ (· = ·) ((groupsOf p es).map fun g => (usersOf p es g).length)
        (rows.map (·.users)) := by
      rw [List.forall₂_map_left_iff, List.forall₂_map_right_iff]
      exact (forall₂_groupsOf p es).imp fun g r h => h.users.symm
    rw [List.forall₂_eq_eq_eq] at husers
    rw [← husers, sum_length_usersOf]
  have hsame : (decodeExperimentRows rows).map (·.users) = rows.map (·.users) := List.map_map
  refine ⟨⟨nodup_countedUsers p es, fun k => mem_countedUsers⟩, groupsOf p es,
    pairwise_groupsOf p es, fun k hk => ?_, fun g hg => ?_, hrows, hdecoded, hsum, ?_⟩
  · exact List.count_eq_one_of_mem (nodup_groupsOf p es) (group_mem_groupsOf hk)
  · rw [hlength]
    exact List.length_pos_iff.mpr (mem_groupsOf.mp hg)
  · rw [hsame, hsum]

end ExperimentQuery
