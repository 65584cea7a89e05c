import ExperimentQuery.Interpreter.Summary
import ExperimentQuery.Proofs.Ordered
import Mathlib

/-!
# Users in batches

Summaries by date are made of all users at once or of partial results that are merged. A partial
result merged into others does what its users do one by one, as far as addition is associative: so
dates and counts never depend on the batches, whatever the numbers, and sums do not where they are
exact.

* `Summary.merge_empty`, `Summary.merge_push`: merging and adding a number;
* `find?_addUser`, `find?_addPartial`: what a look-up finds afterwards;
* **`addPartial_foldl_addUser`**: a partial result stands for its users;
* `Summary.forget`, `reduceByDate_forget`: summaries without their numbers;
* `dateCounts`, `sum_dateCounts`: the number of users of each date;
* **`reduceByDate_of_batches`**: batches change neither dates nor counts nor exact sums.
-/

namespace ExperimentQuery

/-! ## Looking up a date -/

section

variable {α : Type} [OfNat α 0] [Add α] [Mul α] {ds earlier : DateSummaries α}

theorem find?_addUser (hds : Ordered.Increasing ds) (u : Int × α) (date : String) :
    Ordered.find? date (addUser ds u) =
      if utcDate u.1 = date then some (((Ordered.find? date ds).getD .empty).push u.2)
      else Ordered.find? date ds := by
  unfold addUser atDate
  split_ifs with hdate
  · rw [← hdate, Ordered.find?_update_self _ hds]
  · rw [Ordered.find?_update_of_ne (Ne.symm hdate)]

omit [Mul α] in
theorem find?_addPartial (hds : Ordered.Increasing ds) (hearlier : Ordered.Increasing earlier)
    (date : String) :
    Ordered.find? date (addPartial ds earlier) =
      (Ordered.find? date earlier).elim (Ordered.find? date ds) fun s =>
        some (((Ordered.find? date ds).getD .empty).merge s) := by
  refine (Ordered.find?_foldl_update Prod.fst
    (fun d s => (s.getD .empty).merge d.2) date earlier hds).trans ?_
  rw [hearlier.filter_key]
  cases Ordered.find? date earlier <;> rfl

omit [Mul α] in
theorem increasing_addPartial (hds : Ordered.Increasing ds) (earlier : DateSummaries α) :
    Ordered.Increasing (addPartial ds earlier) :=
  Ordered.increasing_foldl_update Prod.fst
    (fun d (s : Option (Summary α)) => (s.getD .empty).merge d.2) earlier hds

theorem increasing_addUser (hds : Ordered.Increasing ds) (u : Int × α) :
    Ordered.Increasing (addUser ds u) :=
  Ordered.increasing_update _ hds

theorem increasing_foldl_addUser (hds : Ordered.Increasing ds) (users : List (Int × α)) :
    Ordered.Increasing (users.foldl addUser ds) := by
  induction users generalizing ds with
  | nil => exact hds
  | cons u users ih => exact ih (increasing_addUser hds u)

end

/-! ## Exact sums -/

section

variable {α : Type} [AddMonoid α] [Mul α] {ds earlier : DateSummaries α}

omit [Mul α] in
theorem Summary.merge_empty (s : Summary α) : s.merge .empty = s := by
  simp [merge, empty]

theorem Summary.merge_push (s t : Summary α) (x : α) :
    s.merge (t.push x) = (s.merge t).push x := by
  simp [merge, push, add_assoc]

theorem addPartial_addUser (hds : Ordered.Increasing ds) (hearlier : Ordered.Increasing earlier)
    (u : Int × α) : addPartial ds (addUser earlier u) = addUser (addPartial ds earlier) u := by
  have hmerged := increasing_addPartial hds earlier
  refine (increasing_addPartial hds _).ext (increasing_addUser hmerged u) fun date => ?_
  rw [find?_addPartial hds (increasing_addUser hearlier u), find?_addUser hearlier,
    find?_addUser hmerged, find?_addPartial hds hearlier]
  split_ifs
  · cases Ordered.find? date earlier with
    | none => simp [Summary.merge_push, Summary.merge_empty]
    | some s => simp [Summary.merge_push]
  · rfl

/-- **A partial result stands for its users.** -/
theorem addPartial_foldl_addUser (hds : Ordered.Increasing ds) (users : List (Int × α)) :
    addPartial ds (users.foldl addUser []) = users.foldl addUser ds := by
  induction users using List.reverseRecOn with
  | nil => rfl
  | append_singleton users u ih =>
    have husers := increasing_foldl_addUser Ordered.increasing_nil users
    rw [List.foldl_append, List.foldl_append, List.foldl_cons, List.foldl_cons, List.foldl_nil,
      List.foldl_nil, addPartial_addUser hds husers, ih]

theorem foldl_addPartial (hds : Ordered.Increasing ds) (batches : List (List (Int × α))) :
    (batches.map (reduceByDate [])).foldl addPartial ds = batches.flatten.foldl addUser ds := by
  induction batches generalizing ds with
  | nil => rfl
  | cons users batches ih =>
    have hbatch : addPartial ds (reduceByDate [] users) = users.foldl addUser ds :=
      addPartial_foldl_addUser hds users
    rw [List.map_cons, List.foldl_cons, List.flatten_cons, List.foldl_append, hbatch]
    exact ih (increasing_foldl_addUser hds users)

/-- Partial results and users are all users at once. -/
theorem reduceByDate_map_reduceByDate (batches : List (List (Int × α)))
    (users : List (Int × α)) :
    reduceByDate (batches.map (reduceByDate [])) users =
      reduceByDate [] (batches.flatten ++ users) := by
  rw [reduceByDate, foldl_addPartial Ordered.increasing_nil, ← List.foldl_append]
  rfl

end

/-! ## Dates and counts -/

section

variable {α : Type}

/-- A summary without its numbers. -/
def Summary.forget (s : Summary α) : Summary PUnit := ⟨s.count, ⟨⟩, ⟨⟩⟩

/-- The number of users of each date. -/
def dateCounts (ds : DateSummaries α) : List (String × Nat) := Ordered.mapValues Summary.count ds

/-- The users without their values. -/
def withoutValues (users : List (Int × α)) : List (Int × PUnit) := users.map fun u => (u.1, ⟨⟩)

theorem dateCounts_forget (ds : DateSummaries α) :
    dateCounts (Ordered.mapValues Summary.forget ds) = dateCounts ds :=
  List.map_map

variable [OfNat α 0] [Add α] [Mul α]

theorem forget_addUser (ds : DateSummaries α) (u : Int × α) :
    Ordered.mapValues Summary.forget (addUser ds u) =
      addUser (Ordered.mapValues Summary.forget ds) (u.1, ⟨⟩) := by
  refine Ordered.mapValues_update (fun s => ?_) (utcDate u.1) ds
  cases s <;> rfl

omit [Mul α] in
theorem forget_addPartial (ds earlier : DateSummaries α) :
    Ordered.mapValues Summary.forget (addPartial ds earlier) =
      addPartial (Ordered.mapValues Summary.forget ds)
        (Ordered.mapValues Summary.forget earlier) := by
  induction earlier generalizing ds with
  | nil => rfl
  | cons d earlier ih =>
    have hdate : Ordered.mapValues Summary.forget (atDate d.1 (·.merge d.2) ds) =
        atDate d.1 (·.merge d.2.forget) (Ordered.mapValues Summary.forget ds) := by
      refine Ordered.mapValues_update (fun s => ?_) d.1 ds
      cases s <;> rfl
    exact (ih _).trans (congrArg (addPartial · _) hdate)

/-- The numbers do not matter to what else summaries hold. -/
theorem reduceByDate_forget (earlier : List (DateSummaries α)) (users : List (Int × α)) :
    Ordered.mapValues Summary.forget (reduceByDate earlier users) =
      reduceByDate (earlier.map (Ordered.mapValues Summary.forget)) (withoutValues users) := by
  have hearlier : ∀ ds : DateSummaries α,
      Ordered.mapValues Summary.forget (earlier.foldl addPartial ds) =
        (earlier.map (Ordered.mapValues Summary.forget)).foldl addPartial
          (Ordered.mapValues Summary.forget ds) := by
    induction earlier with
    | nil => exact fun _ => rfl
    | cons e earlier ih =>
      intro ds
      rw [List.map_cons, List.foldl_cons, List.foldl_cons, ih, forget_addPartial]
  have husers : ∀ ds : DateSummaries α,
      Ordered.mapValues Summary.forget (users.foldl addUser ds) =
        (withoutValues users).foldl addUser (Ordered.mapValues Summary.forget ds) := by
    unfold withoutValues
    induction users with
    | nil => exact fun _ => rfl
    | cons u users ih =>
      intro ds
      rw [List.map_cons, List.foldl_cons, List.foldl_cons, ih, forget_addUser]
  rw [reduceByDate, husers, hearlier]
  rfl

theorem dateCounts_map_reduceByDate (batches : List (List (Int × α))) (users : List (Int × α)) :
    dateCounts (reduceByDate (batches.map (reduceByDate [])) users) =
      dateCounts (reduceByDate [] (batches.flatten ++ users)) := by
  have hbatches : (batches.map (reduceByDate [])).map (Ordered.mapValues Summary.forget) =
      (batches.map withoutValues).map (reduceByDate []) := by
    rw [List.map_map, List.map_map]
    exact List.map_congr_left fun batch _ => reduceByDate_forget [] batch
  have hall : (batches.map withoutValues).flatten ++ withoutValues users =
      withoutValues (batches.flatten ++ users) := by
    rw [withoutValues, withoutValues, List.map_append, List.map_flatten]
    rfl
  rw [← dateCounts_forget, reduceByDate_forget, hbatches, reduceByDate_map_reduceByDate, hall]
  refine .trans ?_ (dateCounts_forget _)
  rw [reduceByDate_forget]
  rfl

theorem sum_dateCounts_addUser (ds : DateSummaries α) (u : Int × α) :
    ((dateCounts (addUser ds u)).map (·.2)).sum = ((dateCounts ds).map (·.2)).sum + 1 := by
  unfold addUser atDate
  induction ds with
  | nil => simp [Ordered.update, dateCounts, Ordered.mapValues, Summary.push, Summary.empty]
  | cons d ds ih =>
    simp only [dateCounts, Ordered.mapValues, Ordered.update, List.map_map] at ih ⊢
    split_ifs
    · simp only [List.map_cons, List.sum_cons, Function.comp_apply, Option.getD_none,
        Summary.push, Summary.empty]
      omega
    · simp only [List.map_cons, List.sum_cons, Function.comp_apply, Option.getD_some,
        Summary.push]
      omega
    · simp only [List.map_cons, List.sum_cons, Function.comp_apply, ih]
      omega

theorem sum_dateCounts (users : List (Int × α)) :
    ((dateCounts (reduceByDate [] users)).map (·.2)).sum = users.length := by
  induction users using List.reverseRecOn with
  | nil => rfl
  | append_singleton users u ih =>
    have hlast : reduceByDate [] (users ++ [u]) = addUser (reduceByDate [] users) u := by
      simp [reduceByDate]
    rw [hlast, sum_dateCounts_addUser, ih, List.length_append, List.length_singleton]

end

/-- **Batches change neither dates nor counts nor exact sums.** Whatever the numbers are, partial
results of any batches together with more users have the dates and the counts of all users at once,
and so have the users taken in batches of any size; the counts add up to the number of users. Where
addition is associative and zero changes nothing, the sums and the sums of squares are the same,
too. -/
theorem reduceByDate_of_batches :
    (∀ {α : Type} [OfNat α 0] [Add α] [Mul α] (batches : List (List (Int × α)))
        (users : List (Int × α)) (batchSize : Nat),
      dateCounts (reduceByDate (batches.map (reduceByDate [])) users) =
          dateCounts (reduceByDate [] (batches.flatten ++ users)) ∧
        dateCounts (batchedByDate users batchSize) = dateCounts (reduceByDate [] users) ∧
        ((dateCounts (reduceByDate [] users)).map (·.2)).sum = users.length) ∧
      ∀ {α : Type} [AddMonoid α] [Mul α] (batches : List (List (Int × α)))
        (users : List (Int × α)) (batchSize : Nat),
      reduceByDate (batches.map (reduceByDate [])) users =
          reduceByDate [] (batches.flatten ++ users) ∧
        batchedByDate users batchSize = reduceByDate [] users := by
  refine ⟨fun batches users batchSize =>
      ⟨dateCounts_map_reduceByDate batches users, ?_, sum_dateCounts users⟩,
    fun batches users batchSize => ⟨reduceByDate_map_reduceByDate batches users, ?_⟩⟩
  · rw [batchedByDate, dateCounts_map_reduceByDate, flatten_chunks, List.append_nil]
  · rw [batchedByDate, reduceByDate_map_reduceByDate, flatten_chunks, List.append_nil]

end ExperimentQuery
