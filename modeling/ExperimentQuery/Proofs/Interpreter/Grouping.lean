import ExperimentQuery.Proofs.Interpreter.TimeOrder
import ExperimentQuery.Proofs.Ordered
import Mathlib.Data.List.Induction

/-!
# The events of each user

Grouping by user gives a map from the users that occur to their events in time order.

* `isStrictTotalOrder_of_pairLt`: any two users are in one order;
* `eventsOf`: the events of a user;
* **`increasing_groupByUser`**, **`find?_groupByUser`**: the groups are the map of these.
-/

namespace ExperimentQuery

/-! ## The order of users -/

theorem pairLt_irrefl (a : String × String) : ¬ pairLt a a := by
  rintro (h | ⟨-, h⟩)
  · exact String.lt_irrefl _ h
  · exact String.lt_irrefl _ h

theorem pairLt_trans {a b c : String × String} (hab : pairLt a b) (hbc : pairLt b c) :
    pairLt a c := by
  rcases hab with hab | ⟨hab, hab'⟩ <;> rcases hbc with hbc | ⟨hbc, hbc'⟩
  · exact .inl (String.lt_trans hab hbc)
  · exact .inl (hbc ▸ hab)
  · exact .inl (hab ▸ hbc)
  · exact .inr ⟨hab.trans hbc, String.lt_trans hab' hbc'⟩

theorem pairLt_trichotomy (a b : String × String) : pairLt a b ∨ a = b ∨ pairLt b a := by
  rcases string_lt_trichotomy a.1 b.1 with h | h | h
  · exact .inl (.inl h)
  · rcases string_lt_trichotomy a.2 b.2 with h' | h' | h'
    · exact .inl (.inr ⟨h, h'⟩)
    · exact .inr (.inl (Prod.ext h h'))
    · exact .inr (.inr (.inr ⟨h.symm, h'⟩))
  · exact .inr (.inr (.inl h))

theorem isStrictTotalOrder_of_pairLt {κ : Type} [LT κ] (pair : κ → String × String)
    (hpair : Function.Injective pair) (hlt : ∀ a b : κ, a < b ↔ pairLt (pair a) (pair b)) :
    IsStrictTotalOrder κ (· < ·) where
  trichotomous a b hab hba := by
    rcases pairLt_trichotomy (pair a) (pair b) with h | h | h
    · exact absurd ((hlt a b).mpr h) hab
    · exact hpair h
    · exact absurd ((hlt b a).mpr h) hba
  irrefl a h := pairLt_irrefl _ ((hlt a a).mp h)
  trans a b c hab hbc := (hlt a c).mpr (pairLt_trans ((hlt a b).mp hab) ((hlt b c).mp hbc))

instance : IsStrictTotalOrder UserKey (· < ·) := by
  refine isStrictTotalOrder_of_pairLt (fun k => (k.distinctId, k.extra)) ?_ fun _ _ => Iff.rfl
  rintro ⟨_, _⟩ ⟨_, _⟩ h
  obtain ⟨rfl, rfl⟩ := Prod.mk.inj h
  rfl

/-! ## Groups -/

variable (property : Option String)

/-- The events of a user, in the order given. -/
def eventsOf (k : UserKey) (es : List Event) : List Event :=
  es.filter fun e => userKey property e = k

/-- The events of each user, in the order given. -/
def collectByUser (es : List Event) : List (UserKey × List Event) :=
  es.foldl (fun users e => Ordered.update (userKey property e) (fun es => es.getD [] ++ [e]) users)
    []

theorem increasing_collectByUser (es : List Event) :
    Ordered.Increasing (collectByUser property es) :=
  Ordered.increasing_foldl_update _ _ es Ordered.increasing_nil

/-- A list, if it is not empty. -/
def nonempty? {α : Type} (l : List α) : Option (List α) := if l.isEmpty then none else some l

theorem getD_nonempty? {α : Type} (l : List α) : (nonempty? l).getD [] = l := by
  cases l <;> rfl

theorem eq_of_nonempty?_eq_some {α : Type} {l l' : List α} (h : nonempty? l = some l') :
    l = l' := by
  cases l with
  | nil => exact nomatch h
  | cons a l => exact Option.some.inj h

theorem foldl_some_append {α : Type} (l : List α) :
    l.foldl (fun b a => some (b.getD [] ++ [a])) none = nonempty? l := by
  induction l using List.reverseRecOn with
  | nil => rfl
  | append_singleton l a ih =>
    rw [List.foldl_append, ih, List.foldl_cons, List.foldl_nil, getD_nonempty?]
    simp [nonempty?]

theorem find?_collectByUser (k : UserKey) (es : List Event) :
    Ordered.find? k (collectByUser property es) = nonempty? (eventsOf property k es) :=
  (Ordered.find?_foldl_update (userKey property) _ k es Ordered.increasing_nil).trans
    (foldl_some_append _)

theorem groupByUser_eq (es : List Event) :
    groupByUser property es =
      (collectByUser property es).filterMap fun u =>
        (some (inTimeOrder u.2)).map fun l => (u.1, l) := by
  rw [groupByUser, ← collectByUser, ← List.filterMap_eq_map]
  rfl

/-- **The groups are in order of the users.** -/
theorem increasing_groupByUser (es : List Event) :
    Ordered.Increasing (groupByUser property es) := by
  rw [groupByUser_eq]
  exact (increasing_collectByUser property es).filterMap fun l => some (inTimeOrder l)

/-- **The group of a user** has the events of the user in time order, and only users with events
have a group. -/
theorem find?_groupByUser (k : UserKey) (es : List Event) :
    Ordered.find? k (groupByUser property es) =
      (nonempty? (eventsOf property k es)).map inTimeOrder := by
  rw [groupByUser_eq, Ordered.find?_filterMap (increasing_collectByUser property es)
    (fun l => some (inTimeOrder l)), find?_collectByUser, Option.map_eq_bind]
  rfl

end ExperimentQuery
