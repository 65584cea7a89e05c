import ExperimentQuery.Interpreter.Run

/-!
# Events in time order

Putting events in time order keeps those of one time in the order they had, and a list in time order
is known from its events of each time.

* `TimeOrdered`: the times of a list do not decrease;
* `atTime_inTimeOrder`: the events of one time keep their order;
* **`inTimeOrder_eq_of_atTime`**: what determines the events in time order;
* `filter_inTimeOrder`: events may be left out before or after.
-/

namespace ExperimentQuery

/-- The times of a list do not decrease. -/
def TimeOrdered (es : List Event) : Prop := es.Pairwise fun a b => a.time ≤ b.time

/-- The events of one time, in order. -/
def atTime (t : Int) (es : List Event) : List Event := es.filter (·.time = t)

theorem filter_comm (keep keep' : Event → Bool) (es : List Event) :
    (es.filter keep').filter keep = (es.filter keep).filter keep' := by
  rw [List.filter_filter, List.filter_filter]
  exact List.filter_congr fun e _ => Bool.and_comm _ _

theorem mem_atTime {t : Int} {es : List Event} {e : Event} :
    e ∈ atTime t es ↔ e ∈ es ∧ e.time = t := by
  simp [atTime]

/-! ## Sorting -/

theorem time_le_trans (a b c : Event) (hab : decide (a.time ≤ b.time))
    (hbc : decide (b.time ≤ c.time)) : decide (a.time ≤ c.time) := by
  simp only [decide_eq_true_eq] at *
  omega

theorem time_le_total (a b : Event) : decide (a.time ≤ b.time) || decide (b.time ≤ a.time) := by
  simp only [Bool.or_eq_true, decide_eq_true_eq]
  omega

@[simp]
theorem inTimeOrder_nil : inTimeOrder [] = [] := List.mergeSort_nil

theorem inTimeOrder_perm (es : List Event) : (inTimeOrder es).Perm es := List.mergeSort_perm es _

theorem timeOrdered_inTimeOrder (es : List Event) : TimeOrdered (inTimeOrder es) :=
  (List.pairwise_mergeSort time_le_trans time_le_total es).imp fun hab => of_decide_eq_true hab

theorem timeOrdered_atTime (t : Int) (es : List Event) : TimeOrdered (atTime t es) := by
  refine List.pairwise_of_forall_mem_list fun a ha b hb => ?_
  have hat := (mem_atTime.mp ha).2
  have hbt := (mem_atTime.mp hb).2
  omega

/-- The events of one time keep their order. -/
theorem atTime_inTimeOrder (t : Int) (es : List Event) :
    atTime t (inTimeOrder es) = atTime t es := by
  have hsub : (atTime t es).Sublist (inTimeOrder es) :=
    List.sublist_mergeSort time_le_trans time_le_total
      ((timeOrdered_atTime t es).imp fun hab => decide_eq_true hab) List.filter_sublist
  have hself : atTime t (atTime t es) = atTime t es :=
    List.filter_eq_self.mpr fun e he => decide_eq_true (mem_atTime.mp he).2
  have hsub' : (atTime t es).Sublist (atTime t (inTimeOrder es)) := by
    have h := hsub.filter (·.time = t)
    change (atTime t (atTime t es)).Sublist (atTime t (inTimeOrder es)) at h
    rwa [hself] at h
  exact (hsub'.eq_of_length ((inTimeOrder_perm es).filter _).length_eq.symm).symm

/-! ## Uniqueness -/

theorem TimeOrdered.time_le {e : Event} {es fs : List Event} (hes : TimeOrdered (e :: es))
    (h : ∀ t, atTime t (e :: es) = atTime t fs) {f : Event} (hf : f ∈ fs) : e.time ≤ f.time := by
  have hmem : f ∈ e :: es := by
    have hmem : f ∈ atTime f.time fs := mem_atTime.mpr ⟨hf, rfl⟩
    rw [← h f.time] at hmem
    exact (mem_atTime.mp hmem).1
  rcases List.mem_cons.mp hmem with rfl | hmem
  · exact Int.le_refl _
  · exact List.rel_of_pairwise_cons hes hmem

/-- **Lists in time order with the same events of each time are equal.** -/
theorem TimeOrdered.ext {es fs : List Event} (hes : TimeOrdered es) (hfs : TimeOrdered fs)
    (h : ∀ t, atTime t es = atTime t fs) : es = fs := by
  induction es generalizing fs with
  | nil =>
    cases fs with
    | nil => rfl
    | cons f fs =>
      have hf : f ∈ atTime f.time (f :: fs) := mem_atTime.mpr ⟨List.mem_cons_self, rfl⟩
      rw [← h f.time] at hf
      exact absurd (mem_atTime.mp hf).1 List.not_mem_nil
  | cons e es ih =>
    cases fs with
    | nil =>
      have he : e ∈ atTime e.time (e :: es) := mem_atTime.mpr ⟨List.mem_cons_self, rfl⟩
      rw [h e.time] at he
      exact absurd (mem_atTime.mp he).1 List.not_mem_nil
    | cons f fs =>
      have hle : e.time ≤ f.time := hes.time_le h List.mem_cons_self
      have hge : f.time ≤ e.time := hfs.time_le (fun t => (h t).symm) List.mem_cons_self
      have htime : f.time = e.time := by omega
      have hfirst := h e.time
      rw [atTime, atTime, List.filter_cons_of_pos (by simp),
        List.filter_cons_of_pos (by simp [htime])] at hfirst
      obtain ⟨rfl, hrest⟩ := List.cons.inj hfirst
      refine congrArg (e :: ·) (ih hes.tail hfs.tail fun t => ?_)
      have ht := h t
      rw [atTime, atTime, List.filter_cons, List.filter_cons] at ht
      by_cases hte : e.time = t
      · exact hte ▸ hrest
      · simpa [hte, atTime] using ht

/-- **The events in time order** are known from those of each time. -/
theorem inTimeOrder_eq_of_atTime {es fs : List Event} (h : ∀ t, atTime t es = atTime t fs) :
    inTimeOrder es = inTimeOrder fs := by
  refine (timeOrdered_inTimeOrder es).ext (timeOrdered_inTimeOrder fs) fun t => ?_
  rw [atTime_inTimeOrder, atTime_inTimeOrder, h]

theorem filter_inTimeOrder (keep : Event → Bool) (es : List Event) :
    (inTimeOrder es).filter keep = inTimeOrder (es.filter keep) := by
  have hsorted : TimeOrdered ((inTimeOrder es).filter keep) :=
    (timeOrdered_inTimeOrder es).sublist List.filter_sublist
  refine hsorted.ext (timeOrdered_inTimeOrder _) fun t => ?_
  have hcomm : ∀ fs : List Event, atTime t (fs.filter keep) = (atTime t fs).filter keep :=
    fun fs => filter_comm _ keep fs
  rw [atTime_inTimeOrder, hcomm, hcomm, atTime_inTimeOrder]

end ExperimentQuery
