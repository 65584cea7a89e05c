/-!
# Ordered maps

A map is a list of keys with values in which the keys increase.

* `Ordered.find?`: the value of a key;
* `Ordered.update`: the value of a key changed, or made when there is none;
* `Ordered.insert`, `Ordered.erase`: a key set and removed;
* `Ordered.ofList`: the map of some pairs, a later one taking the place of an earlier one;
* `Ordered.keys`: the set of some keys in order;
* `find?_insert_self`, `find?_update_of_ne`, `find?_erase_self`: what a look-up finds after a
  change.
-/

namespace ExperimentQuery.Ordered

variable {κ β : Type} [LT κ] [DecidableLT κ] [DecidableEq κ]

/-- The value of a key. -/
def find? (k : κ) (m : List (κ × β)) : Option β := (m.find? (·.1 = k)).map (·.2)

/-- The value of a key changed, or made when there is none. -/
def update (k : κ) (f : Option β → β) : List (κ × β) → List (κ × β)
  | [] => [(k, f none)]
  | (l, b) :: m =>
    if k < l then (k, f none) :: (l, b) :: m
    else if k = l then (l, f (some b)) :: m
    else (l, b) :: update k f m

/-- A key with this value, whatever it was before. -/
def insert (k : κ) (b : β) (m : List (κ × β)) : List (κ × β) := update k (fun _ => b) m

/-- The map without a key. -/
def erase (k : κ) (m : List (κ × β)) : List (κ × β) := m.filter (·.1 ≠ k)

/-- The map of some pairs, a later one taking the place of an earlier one. -/
def ofList (ps : List (κ × β)) : List (κ × β) := ps.foldl (fun m p => insert p.1 p.2 m) []

/-- The distinct keys in order. -/
def keys (ks : List κ) : List κ := (ofList (ks.map fun k => (k, ()))).map (·.1)

/-! ## Looking up after a change -/

omit [LT κ] [DecidableLT κ] in
@[simp]
theorem find?_nil (k : κ) : find? k ([] : List (κ × β)) = none := rfl

omit [LT κ] [DecidableLT κ] in
theorem find?_cons (k : κ) (p : κ × β) (m : List (κ × β)) :
    find? k (p :: m) = if p.1 = k then some p.2 else find? k m := by
  by_cases h : p.1 = k <;> simp [find?, h]

@[simp]
theorem find?_insert_self (k : κ) (b : β) (m : List (κ × β)) :
    find? k (insert k b m) = some b := by
  unfold insert
  induction m with
  | nil => simp [update, find?_cons]
  | cons p m ih =>
    obtain ⟨l, c⟩ := p
    unfold update
    split
    · simp [find?_cons]
    · split
      · rename_i h; simp [find?_cons, h]
      · rename_i h; simp [find?_cons, Ne.symm h, ih]

theorem find?_update_of_ne {k l : κ} (h : l ≠ k) (f : Option β → β) (m : List (κ × β)) :
    find? l (update k f m) = find? l m := by
  induction m with
  | nil => simp [update, find?_cons, Ne.symm h]
  | cons p m ih =>
    obtain ⟨j, c⟩ := p
    unfold update
    split
    · simp [find?_cons, Ne.symm h]
    · split
      · rename_i e; subst e; simp [find?_cons, Ne.symm h]
      · simp only [find?_cons, ih]

omit [LT κ] [DecidableLT κ] in
@[simp]
theorem find?_erase_self (k : κ) (m : List (κ × β)) : find? k (erase k m) = none := by
  simp [find?, erase]

end ExperimentQuery.Ordered
