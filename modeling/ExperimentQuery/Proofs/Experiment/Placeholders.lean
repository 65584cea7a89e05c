import ExperimentQuery.Plan.Basic
import ExperimentQuery.Proofs.Plan.Lenient

/-!
# Placeholders and paths

The placeholders of a dimension are replaced in the text of its expression, and the result is cut
into a path at its dots. No placeholder stands across a dot, so each segment of the expression is
resolved by itself. But the cut comes after, and a value with a dot in it is cut as well: a date
with milliseconds always, and the id of an experiment if it has a dot.

* `placeholder?_append_dot`, `fillTemplate_append_dot`: a dot ends what can be a placeholder;
* `eq_flatMap_splitOn`: what a dot parts is known from the segments;
* `Dimension.placeholders`: the words of the placeholders in an expression;
* **`ExperimentPlan.dimension_path_iff`**: the path of a dimension, and when each segment of its
  expression gives one segment.
-/

namespace ExperimentQuery

/-! ## Placeholders -/

section

variable {p : Char → Bool} {stop : Char}

theorem takeWhile_append_stop (h : p stop = false) (cs rest : List Char) :
    (cs ++ stop :: rest).takeWhile p = cs.takeWhile p := by
  induction cs with
  | nil => simp [h]
  | cons c cs ih => by_cases hc : p c <;> simp [hc, ih]

theorem dropWhile_append_stop (h : p stop = false) (cs rest : List Char) :
    (cs ++ stop :: rest).dropWhile p = cs.dropWhile p ++ stop :: rest := by
  induction cs with
  | nil => simp [h]
  | cons c cs ih => by_cases hc : p c <;> simp [hc, ih]

end

theorem take_length_sub_append (cs after rest : List Char) :
    (cs ++ rest).take ((cs ++ rest).length - (after ++ rest).length) =
      cs.take (cs.length - after.length) := by
  rw [List.length_append, List.length_append, Nat.add_sub_add_right,
    List.take_append_of_le_length (Nat.sub_le _ _)]

/-- A text that begins with a character twice does so before its first dot. -/
theorem exists_of_append_dot {c : Char} (hc : '.' ≠ c) {cs rest after : List Char}
    (h : cs ++ '.' :: rest = c :: c :: after) : ∃ inner, cs = c :: c :: inner := by
  match cs with
  | [] => exact absurd (List.cons.inj h).1 hc
  | [_] => exact absurd (List.cons.inj (List.cons.inj h).2).1 hc
  | _ :: _ :: inner =>
    cases h
    exact ⟨inner, rfl⟩

theorem placeholder?_eq_none {cs : List Char} (h : ∀ inner, cs ≠ '\x7b' :: '\x7b' :: inner) :
    placeholder? cs = none := by
  unfold placeholder?
  split
  · next inner => exact absurd rfl (h inner)
  · rfl

/-- **A dot ends what can be a placeholder.** -/
theorem placeholder?_append_dot (cs rest : List Char) :
    placeholder? (cs ++ '.' :: rest) = placeholder? cs := by
  by_cases hopen : ∃ inner, cs = '\x7b' :: '\x7b' :: inner
  · obtain ⟨inner, rfl⟩ := hopen
    have hblank : Unicode.isBlank '.' = false := rfl
    have hword : Unicode.isWord '.' = false := rfl
    have htrim : ∀ ds, Text.trimStart (ds ++ '.' :: rest) = Text.trimStart ds ++ '.' :: rest :=
      fun ds => dropWhile_append_stop hblank ds rest
    simp only [placeholder?, List.cons_append, htrim, takeWhile_append_stop hword,
      dropWhile_append_stop hword]
    generalize (Text.trimStart inner).takeWhile Unicode.isWord = word
    generalize Text.trimStart ((Text.trimStart inner).dropWhile Unicode.isWord) = tail
    cases word with
    | nil => rfl
    | cons w ws =>
      by_cases hclose : ∃ after, tail = '\x7d' :: '\x7d' :: after
      · obtain ⟨after, rfl⟩ := hclose
        exact congrArg (fun written => some (Placeholder.mk (w :: ws) written))
          (take_length_sub_append ('\x7b' :: '\x7b' :: inner) after ('.' :: rest))
      · split
        · next heq => exact absurd (exists_of_append_dot (by decide) heq) hclose
        · split
          · exact absurd ⟨_, rfl⟩ hclose
          · rfl
  · rw [placeholder?_eq_none fun inner h => hopen ⟨inner, h⟩, placeholder?_eq_none]
    exact fun inner heq => hopen (exists_of_append_dot (by decide) heq)

theorem isPrefix_written {cs : List Char} {p : Placeholder} (h : placeholder? cs = some p) :
    p.written <+: cs := by
  unfold placeholder? at h
  split at h
  · dsimp only at h
    split at h
    · cases h
      exact List.take_prefix _ _
    · cases h
  · cases h

/-- No placeholder has a dot in it: it would be one without what follows the dot. -/
theorem dot_notMem_written {cs : List Char} {p : Placeholder} (h : placeholder? cs = some p) :
    '.' ∉ p.written := by
  intro hdot
  obtain ⟨before, after, hwritten⟩ := List.append_of_mem hdot
  obtain ⟨rest, rfl⟩ := isPrefix_written h
  rw [hwritten, List.append_assoc, List.cons_append, placeholder?_append_dot] at h
  have hlength := (isPrefix_written h).length_le
  rw [hwritten, List.length_append, List.length_cons] at hlength
  omega

theorem mem_templateParts {skip : Nat} {cs : List Char} {part : TemplatePart}
    (h : part ∈ templateParts skip cs) :
    (∃ c ∈ cs, part = .char c) ∨ ∃ p, part = .slot p ∧ '.' ∉ p.written := by
  fun_induction templateParts skip cs with
  | case1 => cases h
  | case2 skip c cs ih => exact (ih h).imp_left fun ⟨d, hd, hpart⟩ => ⟨d, .tail c hd, hpart⟩
  | case3 c cs p hp ih =>
    rcases List.mem_cons.mp h with rfl | h
    · exact .inr ⟨p, rfl, dot_notMem_written hp⟩
    · exact (ih h).imp_left fun ⟨d, hd, hpart⟩ => ⟨d, .tail c hd, hpart⟩
  | case4 c cs hp ih =>
    rcases List.mem_cons.mp h with rfl | h
    · exact .inl ⟨c, .head cs, rfl⟩
    · exact (ih h).imp_left fun ⟨d, hd, hpart⟩ => ⟨d, .tail c hd, hpart⟩

/-- **A dot parts a text**: what stands before it and what stands after it are taken apart by
themselves. -/
theorem templateParts_append_dot (rest : List Char) {skip : Nat} {cs : List Char}
    (h : skip ≤ cs.length) :
    templateParts skip (cs ++ '.' :: rest) =
      templateParts skip cs ++ .char '.' :: templateParts 0 rest := by
  fun_induction templateParts skip cs with
  | case1 skip =>
    obtain rfl : skip = 0 := Nat.le_zero.mp h
    have hnone : placeholder? ('.' :: rest) = none := placeholder?_append_dot [] rest
    rw [List.nil_append, templateParts, hnone]
    rfl
  | case2 skip c cs ih =>
    rw [List.cons_append, templateParts]
    exact ih (Nat.le_of_succ_le_succ h)
  | case3 c cs p hp ih =>
    have hwritten := (isPrefix_written hp).length_le
    rw [List.length_cons] at hwritten
    rw [List.cons_append, templateParts, ← List.cons_append, placeholder?_append_dot, hp]
    exact congrArg (_ :: ·) (ih (by omega))
  | case4 c cs hp ih =>
    rw [List.cons_append, templateParts, ← List.cons_append, placeholder?_append_dot, hp]
    exact congrArg (_ :: ·) (ih (Nat.zero_le _))

/-! ## Segments -/

/-- **What a dot parts is known from the segments.** -/
theorem eq_flatMap_splitOn {β : Type} {sep : Char} {f : List Char → List β}
    (h : ∀ cs ds, f (cs ++ sep :: ds) = f cs ++ f ds) (cs : List Char) :
    f cs = (Text.splitOn sep cs).flatMap f := by
  have hjoin : ∀ pieces, pieces ≠ [] → f ([sep].intercalate pieces) = pieces.flatMap f := by
    intro pieces hne
    induction pieces with
    | nil => exact absurd rfl hne
    | cons piece pieces ih =>
      cases pieces with
      | nil => simp
      | cons next pieces =>
        rw [List.intercalate_cons_cons, List.append_assoc, List.singleton_append, h,
          ih (List.cons_ne_nil _ _), ← List.flatMap_cons]
  have hcs := hjoin _ (Text.splitOn_ne_nil sep cs)
  rwa [Text.splitOn_eq, List.intercalate_splitOn, ← Text.splitOn_eq] at hcs

/-- The words of the placeholders in a text. -/
def placeholderWords (cs : List Char) : List String :=
  (templateParts 0 cs).filterMap fun
    | .char _ => none
    | .slot p => some (String.ofList p.word)

/-- The words of the placeholders in a dimension's expression. -/
def Dimension.placeholders (d : Dimension) : List String := placeholderWords d.expression.toList

theorem placeholderWords_append_dot (cs ds : List Char) :
    placeholderWords (cs ++ '.' :: ds) = placeholderWords cs ++ placeholderWords ds := by
  rw [placeholderWords, templateParts_append_dot ds (Nat.zero_le _), List.filterMap_append,
    List.filterMap_cons_none rfl]
  rfl

section

variable (vs : PlaceholderValues)

theorem fillTemplate_append_dot (cs ds : List Char) :
    fillTemplate vs (cs ++ '.' :: ds) = fillTemplate vs cs ++ '.' :: fillTemplate vs ds := by
  rw [fillTemplate, templateParts_append_dot ds (Nat.zero_le _), List.flatMap_append]
  rfl

theorem splitOn_fillTemplate (cs : List Char) :
    Text.splitOn '.' (fillTemplate vs cs) =
      (Text.splitOn '.' cs).flatMap fun segment => Text.splitOn '.' (fillTemplate vs segment) := by
  refine eq_flatMap_splitOn (f := fun cs => Text.splitOn '.' (fillTemplate vs cs)) ?_ cs
  intro cs ds
  simp only [Text.splitOn_eq, fillTemplate_append_dot, List.splitOn_append_cons_self]

/-- The text that a word stands for, if it stands for one, has no dot. -/
def PlaceholderValues.Dotless (word : String) : Prop :=
  ∀ value, vs.value? word = some value → '.' ∉ value.toList

theorem dot_notMem_fill_slot {p : Placeholder} (h : '.' ∉ p.written) :
    '.' ∉ (TemplatePart.slot p).fill vs ↔ vs.Dotless (String.ofList p.word) := by
  unfold PlaceholderValues.Dotless
  cases hvalue : vs.value? (String.ofList p.word) <;> simp [TemplatePart.fill, hvalue, h]

/-- A text without a dot of its own gets one only from a placeholder. -/
theorem dot_notMem_fillTemplate_iff {cs : List Char} (h : '.' ∉ cs) :
    '.' ∉ fillTemplate vs cs ↔ ∀ word ∈ placeholderWords cs, vs.Dotless word := by
  constructor
  · intro hfill word hword
    obtain ⟨part, hpart, hsome⟩ := List.mem_filterMap.mp hword
    rcases mem_templateParts hpart with ⟨c, -, rfl⟩ | ⟨p, rfl, hp⟩
    · cases hsome
    · cases hsome
      refine (dot_notMem_fill_slot vs hp).mp fun hdot => hfill ?_
      exact List.mem_flatMap.mpr ⟨_, hpart, hdot⟩
  · intro hwords hfill
    obtain ⟨part, hpart, hdot⟩ := List.mem_flatMap.mp hfill
    rcases mem_templateParts hpart with ⟨c, hc, rfl⟩ | ⟨p, rfl, hp⟩
    · rw [← List.mem_singleton.mp hdot] at hc
      exact h hc
    · refine (dot_notMem_fill_slot vs hp).mpr (hwords _ ?_) hdot
      exact List.mem_filterMap.mpr ⟨_, hpart, rfl⟩

/-- **No placeholder of a text has a value with a dot** if and only if every segment of the text
stays without a dot. -/
theorem dotless_segments_iff (cs : List Char) :
    (∀ segment ∈ Text.splitOn '.' cs, '.' ∉ fillTemplate vs segment) ↔
      ∀ word ∈ placeholderWords cs, vs.Dotless word := by
  have hsegment : ∀ segment ∈ Text.splitOn '.' cs, '.' ∉ segment := fun segment hmem hdot =>
    (Text.mem_of_mem_splitOn hmem '.' hdot).2 rfl
  rw [eq_flatMap_splitOn placeholderWords_append_dot cs]
  simp only [List.mem_flatMap, forall_exists_index, and_imp]
  constructor
  · intro h word segment hmem
    exact (dot_notMem_fillTemplate_iff vs (hsegment segment hmem)).mp (h segment hmem) word
  · intro h segment hmem
    rw [dot_notMem_fillTemplate_iff vs (hsegment segment hmem)]
    exact fun word => h word segment hmem

end

/-! ## Values -/

theorem dot_notMem_padDigits (width n : Nat) : '.' ∉ padDigits width n := fun hdot =>
  absurd (isDigit_of_mem_padDigits _ hdot) (by decide)

theorem dot_notMem_plainText (t : Time.Instant) : '.' ∉ t.plainText.toList := by
  have hyear : '.' ∉ (Time.yearText t.date.year).toList := by
    unfold Time.yearText
    split_ifs <;> simp [dot_notMem_padDigits]
  simp [Time.Instant.plainText, Time.Date.text, Time.Instant.timeText, hyear, dot_notMem_padDigits]

theorem dot_mem_rfc3339Millis (t : Time.Instant) : '.' ∈ t.rfc3339Millis.toList := by
  simp [Time.Instant.rfc3339Millis]

theorem PlaceholderValues.dotless_iff (vs : PlaceholderValues) (word : String) :
    vs.Dotless word ↔ word ≠ "startDateISO" ∧ word ≠ "endDateISO" ∧
      (word = "experimentId" → '.' ∉ vs.experimentId.toList) := by
  unfold Dotless value?
  split <;> simp_all [dot_notMem_plainText, dot_mem_rfc3339Millis]

/-! ## Paths -/

variable (vs : PlaceholderValues) (d : Dimension)

theorem propertyPath_of_notMem {column : String} (h : '.' ∉ column.toList) :
    propertyPath column = [column] := by
  rw [propertyPath, Text.splitOn_eq, List.splitOn_eq_singleton h, List.map_singleton,
    String.ofList_toList]

/-- A segment of a dimension's expression with its placeholders replaced. -/
def Dimension.resolveSegment (segment : String) : String :=
  { d with expression := segment }.resolve vs

theorem Dimension.propertyPath_resolve :
    propertyPath (d.resolve vs) =
      (propertyPath d.expression).flatMap fun segment =>
        propertyPath (d.resolveSegment vs segment) := by
  simp only [propertyPath, resolveSegment, resolve, String.toList_ofList, List.flatMap_map]
  rw [splitOn_fillTemplate, List.map_flatMap]

/-- **Each segment gives one segment** if and only if no placeholder has a value with a dot. -/
theorem Dimension.propertyPath_resolve_eq_iff :
    propertyPath (d.resolve vs) = (propertyPath d.expression).map (d.resolveSegment vs) ↔
      ∀ word ∈ d.placeholders, vs.Dotless word := by
  rw [placeholders, ← dotless_segments_iff]
  constructor
  · -- a segment of a path has no dot
    intro h segment hmem hdot
    have hresolved : d.resolveSegment vs (String.ofList segment) ∈ propertyPath (d.resolve vs) := by
      rw [h]
      exact List.mem_map_of_mem (List.mem_map_of_mem hmem)
    obtain ⟨piece, hpiece, heq⟩ := List.mem_map.mp hresolved
    have hfill : piece = fillTemplate vs segment := by
      have := congrArg String.toList heq
      simpa [resolveSegment, resolve] using this
    rw [← hfill] at hdot
    exact (Text.mem_of_mem_splitOn hpiece '.' hdot).2 rfl
  · intro h
    rw [propertyPath_resolve, List.map_eq_flatMap]
    refine List.flatMap_congr fun segment hmem => propertyPath_of_notMem ?_
    obtain ⟨piece, hpiece, rfl⟩ := List.mem_map.mp hmem
    simpa [resolveSegment, resolve] using h piece hpiece

namespace ExperimentPlan

/-- **The path of a dimension** is that of the segments of its expression, each resolved by itself
and cut at its dots. Each segment gives a single one if and only if no placeholder of the expression
stands for a date with milliseconds, or for the id of the experiment while this has a dot. -/
theorem dimension_path_iff (s : ExperimentSettings) (metrics : List Metric)
    (activation : Option Metric) (d : Dimension) :
    let plan := build s metrics activation (some d)
    let segments := propertyPath d.expression
    let resolved := d.resolveSegment s.placeholderValues
    plan.dimension = some ⟨segments.flatMap fun segment => propertyPath (resolved segment)⟩ ∧
      (plan.dimension = some ⟨segments.map resolved⟩ ↔
        ∀ word ∈ d.placeholders, word ≠ "startDateISO" ∧ word ≠ "endDateISO" ∧
          (word = "experimentId" → '.' ∉ s.experimentId.toList)) := by
  intro plan segments resolved
  have hplan : plan.dimension = some ⟨propertyPath (d.resolve s.placeholderValues)⟩ := rfl
  constructor
  · rw [hplan, d.propertyPath_resolve]
  · rw [hplan, Option.some.injEq, DimensionExpr.mk.injEq]
    exact (d.propertyPath_resolve_eq_iff s.placeholderValues).trans
      (forall₂_congr fun word _ => s.placeholderValues.dotless_iff word)

/-- A date with milliseconds is cut at its point, so its placeholder gives two segments. -/
theorem dimension_path_splits_date :
    let s : ExperimentSettings :=
      { experimentId := "checkout", start := ⟨1704067200, 0⟩, stop := ⟨1706659200, 0⟩ }
    let d : Dimension := { expression := "cohorts.{{startDateISO}}" }
    (propertyPath d.expression).map (d.resolveSegment s.placeholderValues) =
        ["cohorts", "2024-01-01T00:00:00.000Z"] ∧
      (build s [] none (some d)).dimension =
        some ⟨["cohorts", "2024-01-01T00:00:00", "000Z"]⟩ ∧
      (build s [] none (some d)).dimension ≠
        some ⟨(propertyPath d.expression).map (d.resolveSegment s.placeholderValues)⟩ := by
  decide +kernel

end ExperimentPlan

end ExperimentQuery
