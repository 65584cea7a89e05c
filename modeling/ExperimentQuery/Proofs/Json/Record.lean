import ExperimentQuery.Json.Record
import Mathlib.Data.List.Nodup

/-!
# Fields of records

What a record has under a name is what the object it was read from has under that name, or what the
list of values has in the place of that name.

* `withDefault_of_some`, `optional_of_none`, …: the reading of a field from its look-up;
* `lookup_of_not_mem`: a name that is not a field;
* **`lookup_obj`**, **`lookup_arr`**: a field by its name, and by its place;
* `record?_of_extra`, `record?_of_take`: the same record for other field names.
-/

namespace ExperimentQuery

namespace Json

variable {α : Type} {read : Json → Option α} {v : Json} {a : α}

theorem nullable?_eq_some (hnull : read .null = none) (h : read v = some a) :
    nullable? read v = some (some a) := by
  cases v with
  | null => rw [hnull] at h; exact nomatch h
  | _ => rw [nullable?, h, Option.map_some]; exact nofun

theorem exists_of_nullable? {o : Option α} (hv : v ≠ .null) (h : nullable? read v = some o) :
    ∃ a, read v = some a ∧ o = some a := by
  rw [nullable?] at h
  · obtain ⟨a, ha, rfl⟩ := Option.map_eq_some_iff.mp h
    exact ⟨a, ha, rfl⟩
  · exact hv

end Json

namespace Record

variable {α : Type} {r : Record} {name : String} {w : Json} {fallback : α} {read : Json → Option α}

theorem withDefault_of_some (hw : r.fields.lookup name = some w) :
    r.withDefault name fallback read = read w := by
  rw [withDefault, hw]

theorem withDefault_of_none (hw : r.fields.lookup name = none) :
    r.withDefault name fallback read = some fallback := by
  rw [withDefault, hw]

theorem optional_of_some (hw : r.fields.lookup name = some w) :
    r.optional name read = Json.nullable? read w := withDefault_of_some hw

theorem optional_of_none (hw : r.fields.lookup name = none) : r.optional name read = some none :=
  withDefault_of_none hw

end Record

variable {v : Json} {names : List String} {r : Record} {name : String}

theorem lookup_filter_of_imp {p : String × Json → Bool} {ms : List (String × Json)}
    (h : ∀ w, p (name, w)) : (ms.filter p).lookup name = ms.lookup name := by
  induction ms with
  | nil => rfl
  | cons m ms ih =>
    obtain ⟨k, w⟩ := m
    rw [List.filter_cons, List.lookup_cons]
    by_cases hk : name = k
    · subst hk
      rw [if_pos (h w), List.lookup_cons_self, beq_self_eq_true]
    · split
      · rw [List.lookup_cons, ih]
      · rw [beq_false_of_ne hk, ih]

theorem lookup_of_not_mem (hr : v.record? names = some r) (hname : name ∉ names) :
    r.fields.lookup name = none := by
  refine List.lookup_eq_none_iff.mpr fun m hm => ?_
  have hmem : m.1 ∈ names := by
    cases v with
    | obj members =>
      rw [Json.record?] at hr
      split at hr
      · cases hr
        exact List.contains_iff_mem.mp (List.mem_filter.mp hm).2
      · exact nomatch hr
    | arr items =>
      rw [Json.record?] at hr
      split at hr
      · cases hr
        exact (List.of_mem_zip hm).1
      · exact nomatch hr
    | _ => exact nomatch hr
  exact bne_iff_ne.mpr fun heq => hname (heq ▸ hmem)

theorem lookup_obj {members : List (String × Json)} (hr : (Json.obj members).record? names = some r)
    (hname : name ∈ names) : r.fields.lookup name = members.lookup name := by
  rw [Json.record?] at hr
  split at hr
  · cases hr
    exact lookup_filter_of_imp fun _ => List.contains_iff_mem.mpr hname
  · exact nomatch hr

theorem lookup_zip {items : List Json} {i : Nat} (hnames : names.Nodup)
    (hname : names[i]? = some name) : (names.zip items).lookup name = items[i]? := by
  induction names generalizing items i with
  | nil => exact nomatch hname
  | cons k names ih =>
    obtain ⟨hk, hnames'⟩ := List.nodup_cons.mp hnames
    cases items with
    | nil => rfl
    | cons w items =>
      rw [List.zip_cons_cons, List.lookup_cons]
      cases i with
      | zero =>
        cases hname
        rw [beq_self_eq_true]
        rfl
      | succ i =>
        have hne : name ≠ k := fun heq => hk (heq ▸ List.mem_of_getElem? hname)
        rw [beq_false_of_ne hne]
        exact ih hnames' hname

theorem lookup_arr {items : List Json} {i : Nat} (hr : (Json.arr items).record? names = some r)
    (hnames : names.Nodup) (hname : names[i]? = some name) :
    r.fields.lookup name = items[i]? := by
  rw [Json.record?] at hr
  split at hr
  · cases hr
    exact lookup_zip hnames hname
  · exact nomatch hr

/-- Further field names do not matter to an object that gives none of them. -/
theorem record?_of_extra {members : List (String × Json)} {names' : List String}
    (extra : List String) (hnames : ∀ name, name ∈ names' ↔ name ∈ names ∨ name ∈ extra)
    (hextra : ∀ name ∈ extra, (Json.obj members).get? name = none) :
    (Json.obj members).record? names' = (Json.obj members).record? names := by
  have hfilter : members.filter (fun m => names'.contains m.1) =
      members.filter fun m => names.contains m.1 := by
    refine List.filter_congr fun m hm => ?_
    have hfree : m.1 ∉ extra := fun hmem => by
      have hnone := List.lookup_eq_none_iff.mp (hextra _ hmem) m hm
      exact bne_iff_ne.mp hnone rfl
    rw [Bool.eq_iff_iff, List.contains_iff_mem, List.contains_iff_mem, hnames]
    exact ⟨fun h => h.resolve_right hfree, .inl⟩
  rw [Json.record?, Json.record?, hfilter]

/-- Only as many field names matter as a list has values. -/
theorem record?_of_take {items : List Json} {names' : List String} {n : Nat}
    (hnames : names.take n = names'.take n) (hn : n ≤ names.length) (hn' : n ≤ names'.length)
    (hitems : items.length ≤ n) :
    (Json.arr items).record? names = (Json.arr items).record? names' := by
  have hzip : ∀ ks : List String, items.length ≤ ks.length →
      ks.zip items = (ks.take items.length).zip items := by
    intro ks hks
    rw [List.zip_eq_zip_take_min, Nat.min_eq_right hks, List.take_length]
  have htake : names.take items.length = names'.take items.length := by
    have heq := congrArg (List.take items.length) hnames
    rwa [List.take_take, List.take_take, Nat.min_eq_left hitems] at heq
  have hle := Nat.le_trans hitems hn
  have hle' := Nat.le_trans hitems hn'
  rw [Json.record?, Json.record?, if_pos hle, if_pos hle', hzip names hle, hzip names' hle', htake]

end ExperimentQuery
