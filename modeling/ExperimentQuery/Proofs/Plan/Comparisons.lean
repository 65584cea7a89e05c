import ExperimentQuery.Plan.Aggregate
import Mathlib.Data.List.Basic

/-!
# The two readings of an aggregate filter

A filter is read twice: the checks of a metric want every part to be a comparison, and the plan of a
metric passes over the parts that are none. Both pass over empty parts. The plan cuts the text at its
commas and gives each part to the strict reading, which cuts it no further.

* `Text.splitOn_all_nil_iff`: the texts whose pieces are all empty;
* `filterParts_of_mem`: a part stays as it is when it is cut again;
* **`keptComparisons_eq`**: what the plan keeps are the comparisons among the parts;
* **`filterMap_of_parseComparisons`**: on a text that the checks accept the readings agree;
* `parseComparisons_eq_nil_iff`: the texts without any comparison.
-/

namespace ExperimentQuery

theorem bind_eq_ok {ε α β : Type} {x : Except ε α} {f : α → Except ε β} {b : β} :
    (x >>= f) = .ok b ↔ ∃ a, x = .ok a ∧ f a = .ok b := by
  cases x <;> simp [bind, Except.bind]

theorem Text.splitOn_all_nil_iff (sep : Char) (cs : List Char) :
    (∀ piece ∈ splitOn sep cs, piece = []) ↔ ∀ c ∈ cs, c = sep := by
  induction cs with
  | nil => simp [splitOn]
  | cons c cs ih =>
    unfold splitOn
    by_cases hc : c = sep
    · simp [hc, ih]
    · rw [if_neg hc]
      cases splitOn sep cs <;> simp [hc]

theorem Text.splitOn_of_not_mem {sep : Char} {cs : List Char} (h : sep ∉ cs) :
    splitOn sep cs = [cs] := by
  induction cs with
  | nil => rfl
  | cons c cs ih =>
    obtain ⟨hc, hcs⟩ := not_or.mp (mt List.mem_cons.mpr h)
    rw [splitOn, if_neg (Ne.symm hc), ih hcs]

theorem Text.mem_of_mem_splitOn {sep : Char} {cs piece : List Char} (h : piece ∈ splitOn sep cs) :
    ∀ c ∈ piece, c ∈ cs ∧ c ≠ sep := by
  induction cs generalizing piece with
  | nil => simp_all [splitOn]
  | cons d cs ih =>
    unfold splitOn at h
    split at h
    · rcases List.mem_cons.mp h with rfl | h
      · simp
      · exact fun c hc => ⟨List.mem_cons_of_mem d (ih h c hc).1, (ih h c hc).2⟩
    · next hd =>
      split at h
      · next hnil => exact absurd hnil (splitOn_ne_nil sep cs)
      · next first rest hcs =>
        rw [hcs] at ih
        rcases List.mem_cons.mp h with rfl | h
        · refine List.forall_mem_cons.mpr ⟨⟨List.mem_cons_self, hd⟩, fun c hc => ?_⟩
          have hfirst := ih List.mem_cons_self c hc
          exact ⟨List.mem_cons_of_mem d hfirst.1, hfirst.2⟩
        · have hrest := ih (List.mem_cons_of_mem first h)
          exact fun c hc => ⟨List.mem_cons_of_mem d (hrest c hc).1, (hrest c hc).2⟩

/-! ## Comparisons -/

theorem requireComparison_eq_ok {part : List Char} {c : Comparison} :
    requireComparison part = .ok c ↔ comparison? part = some c := by
  unfold requireComparison
  cases comparison? part <;> simp

theorem map_comparison?_of_mapM {parts : List (List Char)} {cs : List Comparison}
    (h : parts.mapM requireComparison = .ok cs) : parts.map comparison? = cs.map some := by
  induction parts generalizing cs with
  | nil =>
    rw [List.mapM_nil] at h
    cases h
    rfl
  | cons part parts ih =>
    rw [List.mapM_cons] at h
    obtain ⟨c, hc, h⟩ := bind_eq_ok.mp h
    obtain ⟨ds, hds, h⟩ := bind_eq_ok.mp h
    cases h
    rw [List.map_cons, List.map_cons, requireComparison_eq_ok.mp hc, ih hds]

theorem filterMap_comparison?_filter (parts : List (List Char)) :
    (parts.filter (· ≠ [])).filterMap comparison? = parts.filterMap comparison? := by
  rw [List.filterMap_filter]
  congr 1
  funext part
  cases part <;> rfl

/-! ## Parts cut again -/

theorem filterParts_of_not_mem {text : String} (h : ',' ∉ text.toList) :
    filterParts text = [Text.compact text] := by
  have hcompact : ',' ∉ Text.compact text := fun hmem => h (List.mem_filter.mp hmem).1
  rw [filterParts, Text.splitOn_of_not_mem hcompact]

/-- Cut again, a part of a text stays as it is. -/
theorem filterParts_of_mem {filter : String} {part : List Char} (h : part ∈ filterParts filter) :
    filterParts (String.ofList part) = [part] := by
  have hchars := Text.mem_of_mem_splitOn h
  have hcompact : Text.compact (String.ofList part) = part := by
    rw [Text.compact, String.toList_ofList, List.filter_eq_self]
    exact fun c hc => (List.mem_filter.mp (hchars c hc).1).2
  rw [filterParts_of_not_mem, hcompact]
  rw [String.toList_ofList]
  exact fun hmem => (hchars ',' hmem).2 rfl

theorem parseComparisons_of_filterParts {text : String} {part : List Char}
    (h : filterParts text = [part]) :
    parseComparisons text =
      if part = [] then .ok [] else (requireComparison part).map fun c => [c] := by
  rw [parseComparisons, h]
  by_cases hpart : part = []
  · rw [if_pos hpart, hpart]
    rfl
  · rw [if_neg hpart, List.filter_cons_of_pos (by simpa using hpart), List.filter_nil]
    cases hread : requireComparison part <;> simp [hread] <;> rfl

theorem toOption_parseComparisons {text : String} {part : List Char}
    (h : filterParts text = [part]) :
    (parseComparisons text).toOption.getD [] = (comparison? part).toList := by
  rw [parseComparisons_of_filterParts h]
  split
  · next hpart =>
    rw [hpart]
    rfl
  · rw [requireComparison]
    cases comparison? part <;> rfl

/-- **The two passes keep the comparisons of the parts**: the second one cuts nothing further. -/
theorem keptComparisons_eq (filter : String) :
    keptComparisons filter = (filterParts filter).filterMap comparison? := by
  rw [keptComparisons, List.filterMap_eq_flatMap_toList]
  refine List.flatMap_congr fun part hpart => ?_
  exact toOption_parseComparisons (filterParts_of_mem hpart)

/-! ## Filters -/

/-- **The two readings of a text agree** if the checks accept it. -/
theorem filterMap_of_parseComparisons {filter : String} {cs : List Comparison}
    (h : parseComparisons filter = .ok cs) :
    (filterParts filter).filterMap comparison? = cs := by
  have hmap := map_comparison?_of_mapM h
  calc (filterParts filter).filterMap comparison?
      = ((filterParts filter).filter (· ≠ [])).filterMap comparison? :=
        (filterMap_comparison?_filter _).symm
    _ = (((filterParts filter).filter (· ≠ [])).map comparison?).filterMap id := by
        rw [List.filterMap_map, Function.id_comp]
    _ = (cs.map some).filterMap id := by rw [hmap]
    _ = cs := by rw [List.filterMap_map, Function.id_comp, List.filterMap_some]

/-- An accepted text has no comparison if it holds nothing but white space and commas. -/
theorem parseComparisons_eq_nil_iff {filter : String} {cs : List Comparison}
    (h : parseComparisons filter = .ok cs) :
    cs = [] ↔ ∀ c ∈ filter.toList, Unicode.isBlank c ∨ c = ',' := by
  have hlen : cs.length = ((filterParts filter).filter (· ≠ [])).length := by
    simpa using (congrArg List.length (map_comparison?_of_mapM h)).symm
  have hcompact : (∀ c ∈ Text.compact filter, c = ',') ↔
      ∀ c ∈ filter.toList, Unicode.isBlank c ∨ c = ',' := by
    refine forall_congr' fun c => ?_
    rw [Text.compact, List.mem_filter]
    cases Unicode.isBlank c <;> simp
  rw [← List.length_eq_zero_iff, hlen, List.length_eq_zero_iff, List.filter_eq_nil_iff, ← hcompact,
    ← Text.splitOn_all_nil_iff]
  simp [filterParts]

theorem AggregateFilter.ofParts?_eq (column filter : String) :
    ofParts? column filter =
      if (keptComparisons filter).isEmpty then none
      else some ⟨.ofName column, keptComparisons filter⟩ := by
  rw [ofParts?]
  cases keptComparisons filter <;> rfl

/-- The filter of a column and an accepted text: the comparisons of the text, unless there are
none. -/
theorem AggregateFilter.ofParts?_of_parseComparisons {filter : String} {cs : List Comparison}
    (h : parseComparisons filter = .ok cs) (column : String) :
    AggregateFilter.ofParts? column filter =
      if cs.isEmpty then none else some ⟨.ofName column, cs⟩ := by
  rw [AggregateFilter.ofParts?_eq, keptComparisons_eq, filterMap_of_parseComparisons h]

end ExperimentQuery
