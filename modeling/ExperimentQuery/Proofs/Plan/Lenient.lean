import ExperimentQuery.Proofs.Plan.Grammar

/-!
# Aggregate filters with parts that cannot be read

The plan of a metric keeps the parts of an aggregate filter that are read strictly, each as a text of
its own, and passes over the others. Both readings of a text with a comma come from those of the
texts on either side, so what the plan keeps is the strict reading of the text without its refused
parts.

* `forall₂_spells_filter`: the parts that are comparisons spell what is kept;
* `parseComparisons_append_comma`, `keptComparisons_append_comma`: both readings at a comma;
* `filterTexts`, `withoutRefused`: a text without its refused parts;
* `parseComparisons_withoutRefused`: what is left is read strictly;
* **`AggregateFilter.ofParts?_agrees`**: the filter of a column and a text.
-/

namespace ExperimentQuery

/-! ## Cutting -/

theorem filterParts_append_comma (a b : String) :
    filterParts (a ++ "," ++ b) = filterParts a ++ filterParts b := by
  have hcomma : (",".toList.filter fun c => !Unicode.isBlank c) = [','] := by rfl
  simp only [filterParts, Text.splitOn_eq, Text.compact]
  rw [String.toList_append, String.toList_append, List.filter_append, List.filter_append, hcomma,
    List.append_assoc, List.singleton_append, List.splitOn_append_cons_self]

/-! ## What is kept -/

theorem keptComparisons_eq_nil_iff {filter : String} :
    keptComparisons filter = [] ↔ ∀ part ∈ filterParts filter, ¬IsComparison part := by
  rw [keptComparisons_eq, List.filterMap_eq_nil_iff]
  refine forall₂_congr fun part _ => ?_
  rw [isComparison_iff, Option.not_isSome_iff_eq_none]

/-- The parts that are comparisons spell what is kept of all parts. -/
theorem forall₂_spells_filter (parts : List (List Char)) :
    List.Forall₂ Spells (parts.filter fun part => IsComparison part)
      (parts.filterMap comparison?) := by
  induction parts with
  | nil => exact .nil
  | cons part parts ih =>
    cases hpart : comparison? part with
    | none =>
      have hnot : ¬IsComparison part := by simp [isComparison_iff, hpart]
      rw [List.filter_cons_of_neg (by simpa using hnot), List.filterMap_cons_none hpart]
      exact ih
    | some c =>
      have his : IsComparison part := by simp [isComparison_iff, hpart]
      rw [List.filter_cons_of_pos (by simpa using his), List.filterMap_cons_some hpart]
      exact .cons (spells_of_comparison? hpart) ih

/-! ## Both readings at a comma -/

theorem parseComparisons_append_comma (a b : String) :
    parseComparisons (a ++ "," ++ b) = (do
      let cs ← parseComparisons a
      let ds ← parseComparisons b
      return cs ++ ds) := by
  rw [parseComparisons, filterParts_append_comma, List.filter_append, List.mapM_append]
  rfl

theorem keptComparisons_append_comma (a b : String) :
    keptComparisons (a ++ "," ++ b) = keptComparisons a ++ keptComparisons b := by
  rw [keptComparisons, filterParts_append_comma, List.flatMap_append]
  rfl

theorem isOk_parseComparisons_intercalate {texts : List String}
    (h : ∀ text ∈ texts, (parseComparisons text).isOk) :
    (parseComparisons (",".intercalate texts)).isOk := by
  induction texts with
  | nil => rfl
  | cons text texts ih =>
    cases texts with
    | nil => exact h text List.mem_cons_self
    | cons next texts =>
      obtain ⟨cs, hcs⟩ := isOk_iff.mp (h text List.mem_cons_self)
      obtain ⟨ds, hds⟩ := isOk_iff.mp (ih fun t ht => h t (List.mem_cons_of_mem text ht))
      rw [String.intercalate_cons_cons, parseComparisons_append_comma, hcs, hds]
      rfl

theorem keptComparisons_intercalate (texts : List String) :
    keptComparisons (",".intercalate texts) = texts.flatMap keptComparisons := by
  induction texts with
  | nil => rfl
  | cons text texts ih =>
    cases texts with
    | nil => simp
    | cons next texts =>
      rw [String.intercalate_cons_cons, keptComparisons_append_comma, ih, ← List.flatMap_cons]

/-! ## Without the refused parts -/

/-- The parts of a text, with their white space. -/
def filterTexts (filter : String) : List String :=
  (filter.toList.splitOn ',').map String.ofList

/-- The text without the parts that are refused. -/
def withoutRefused (filter : String) : String :=
  ",".intercalate ((filterTexts filter).filter fun text => (parseComparisons text).isOk)

theorem intercalate_filterTexts (filter : String) :
    ",".intercalate (filterTexts filter) = filter := by
  have hcomma : ",".toList = [','] := by rfl
  rw [← String.toList_inj, String.toList_intercalate, filterTexts, List.map_map, hcomma]
  simp [Function.comp_def, List.intercalate_splitOn]

theorem keptComparisons_of_refused {filter text : String} (hmem : text ∈ filterTexts filter)
    (h : ¬(parseComparisons text).isOk) : keptComparisons text = [] := by
  obtain ⟨piece, hpiece, rfl⟩ := List.mem_map.mp hmem
  rw [← Text.splitOn_eq] at hpiece
  have hpart : filterParts (String.ofList piece) = [Text.compact (String.ofList piece)] := by
    refine filterParts_of_not_mem ?_
    rw [String.toList_ofList]
    exact fun hc => (Text.mem_of_mem_splitOn hpiece ',' hc).2 rfl
  cases hparse : parseComparisons (String.ofList piece) with
  | ok cs => exact absurd (isOk_iff.mpr ⟨cs, hparse⟩) h
  | error bad =>
    have hnone := toOption_parseComparisons hpart
    rw [keptComparisons_eq, hpart, List.filterMap_eq_flatMap_toList, List.flatMap_singleton,
      ← hnone, hparse]
    rfl

theorem flatMap_filter_of_eq_nil {α β : Type} {f : α → List β} {p : α → Bool} {as : List α}
    (h : ∀ a ∈ as, ¬p a → f a = []) : (as.filter p).flatMap f = as.flatMap f := by
  induction as with
  | nil => rfl
  | cons a as ih =>
    have hrest := ih fun b hb => h b (List.mem_cons_of_mem a hb)
    rw [List.flatMap_cons]
    by_cases ha : p a
    · rw [List.filter_cons_of_pos ha, List.flatMap_cons, hrest]
    · rw [List.filter_cons_of_neg ha, hrest, h a List.mem_cons_self ha, List.nil_append]

/-- **What is left is read strictly**, as the comparisons that are kept of the whole text. -/
theorem parseComparisons_withoutRefused (filter : String) :
    parseComparisons (withoutRefused filter) = .ok (keptComparisons filter) := by
  have hok : (parseComparisons (withoutRefused filter)).isOk :=
    isOk_parseComparisons_intercalate fun text htext => (List.mem_filter.mp htext).2
  have hkept : keptComparisons (withoutRefused filter) = keptComparisons filter := by
    conv_rhs => rw [← intercalate_filterTexts filter]
    rw [withoutRefused, keptComparisons_intercalate, keptComparisons_intercalate]
    exact flatMap_filter_of_eq_nil fun text htext h => keptComparisons_of_refused htext h
  obtain ⟨cs, hparse⟩ := isOk_iff.mp hok
  rw [hparse, ← hkept, keptComparisons_eq, filterMap_of_parseComparisons hparse]

/-! ## The lenient reading -/

/-- **The lenient reading of an aggregate filter** keeps the comparisons of the parts that are
comparisons, in order, and gives no filter if there are none. It agrees with the strict reading,
which is that of the whole text, or, where this one is refused, that of the text without its refused
parts. Texts without a comparison make no difference, wherever they are put in as further parts. -/
theorem AggregateFilter.ofParts?_agrees (column filter : String) :
    let parts := (filter.toList.filter fun c => !Unicode.isBlank c).splitOn ','
    let kept := keptComparisons filter
    ofParts? column filter = (if kept.isEmpty then none else some ⟨.ofName column, kept⟩) ∧
      List.Forall₂ Spells (parts.filter fun part => IsComparison part) kept ∧
      (ofParts? column filter = none ↔ ∀ part ∈ parts, ¬IsComparison part) ∧
      (match parseComparisons filter with
        | .ok cs => cs = kept
        | .error _ => parseComparisons (withoutRefused filter) = .ok kept) ∧
      ∀ before inserted after : List String,
        (∀ text ∈ inserted, ∀ part ∈ filterParts text, ¬IsComparison part) →
          ofParts? column (",".intercalate (before ++ inserted ++ after)) =
            ofParts? column (",".intercalate (before ++ after)) := by
  intro parts kept
  have hparts : parts = filterParts filter := by
    rw [filterParts, Text.splitOn_eq, Text.compact]
  have hkept : kept = (filterParts filter).filterMap comparison? := keptComparisons_eq filter
  have hof := ofParts?_eq column filter
  refine ⟨hof, ?_, ?_, ?_, fun before inserted after hinserted => ?_⟩
  · rw [hparts, hkept]
    exact forall₂_spells_filter (filterParts filter)
  · rw [hof, hparts, ← keptComparisons_eq_nil_iff, ← List.isEmpty_iff]
    split <;> simp_all
  · cases hparse : parseComparisons filter with
    | ok cs =>
      rw [hkept]
      exact (filterMap_of_parseComparisons hparse).symm
    | error bad => exact parseComparisons_withoutRefused filter
  · -- what is kept of joined texts is what is kept of each
    have hnothing : inserted.flatMap keptComparisons = [] :=
      List.flatMap_eq_nil_iff.mpr fun text htext =>
        keptComparisons_eq_nil_iff.mpr (hinserted text htext)
    have hsame : keptComparisons (",".intercalate (before ++ inserted ++ after)) =
        keptComparisons (",".intercalate (before ++ after)) := by
      simp only [keptComparisons_intercalate, List.flatMap_append, hnothing, List.append_nil]
    rw [ofParts?_eq, ofParts?_eq, hsame]

theorem AggregateFilter.ofParts?_agrees_bounds :
    (∀ text ∈ ["", " =>3 "], ∀ part ∈ filterParts text, ¬IsComparison part) ∧
      ofParts? "$$count" (",".intercalate ([">=2"] ++ ["", " =>3 "] ++ ["<10"])) =
        ofParts? "$$count" (",".intercalate ([">=2"] ++ ["<10"])) ∧
      keptComparisons ">=2,, =>3 ,<10" = [⟨.ge, 2⟩, ⟨.lt, 10⟩] := by
  have hnone : ∀ text ∈ ["", " =>3 "], ∀ part ∈ filterParts text, ¬IsComparison part := by
    simp only [isComparison_iff]
    decide
  obtain ⟨-, -, -, -, hinsert⟩ := ofParts?_agrees "$$count" ">=2,, =>3 ,<10"
  exact ⟨hnone, hinsert [">=2"] ["", " =>3 "] ["<10"] hnone, rfl⟩

end ExperimentQuery
