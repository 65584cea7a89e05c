import ExperimentQuery.Proofs.Script.Lines
import ExperimentQuery.Proofs.Script.Wording

/-!
# Display names and comments

A script shows the names of metrics, of the activation, of segments and of the query in comments.
A comment is flattened, so that no line feed and no carriage return ends it. A line separator or a
paragraph separator in the name does end it, and what follows is code, unless it is a comment again.

* `codeLines`: the lines of a script that are no comments;
* `IsQuiet`: a name that no line separator ends;
* `ExperimentPlan.HasQuietNames`, `MetricValuePlan.HasQuietNames`;
* `isQuiet_append`: a remark is quiet if the names in it are;
* **`codeLines_render_eq_iff`**: when the remarks of a script can be left out;
* **`names_stay_in_comments`**: when the names of a plan do not matter to the code.
-/

namespace ExperimentQuery

namespace Script

/-! ## Code -/

/-- Whether a character ends a line of a script. -/
def isLineEnd (c : Char) : Bool := c = '\n' || c = '\r' || c = '\u2028' || c = '\u2029'

/-- **The lines of a script that are no comments**, a line ending at every character that ends
one. -/
def codeLines (script : String) : List (List Char) :=
  (script.toList.splitOnP isLineEnd).filter (!isComment ·)

/-- The lines after the first line of a remark that are no comments. -/
def strayLines (remark : String) : List (List Char) :=
  ((flatten remark).toList.splitOnP isLineEnd).tail.filter (!isComment ·)

/-- The remark stays a comment when it is written as one. -/
def IsQuiet (remark : String) : Prop := strayLines remark = []

theorem toList_flatten (s : String) :
    (flatten s).toList = s.toList.map fun c => if c = '\n' ∨ c = '\r' then ' ' else c :=
  String.toList_map

theorem isQuiet_iff (s : String) :
    IsQuiet s ↔ ((s.toList.map fun c => if c = '\n' ∨ c = '\r' then ' ' else c).splitOnP
      isLineEnd).tail.all isComment := by
  rw [IsQuiet, strayLines, toList_flatten, List.filter_eq_nil_iff, List.all_eq_true]
  simp

instance (s : String) : Decidable (IsQuiet s) := decidable_of_iff' _ (isQuiet_iff s)

theorem isQuiet_empty : IsQuiet "" := by decide

end Script

/-- The display names of the plan stay comments. -/
structure ExperimentPlan.HasQuietNames (p : ExperimentPlan) : Prop where
  activation : ∀ a ∈ p.activation, Script.IsQuiet a.name
  metrics : ∀ m ∈ p.metrics, Script.IsQuiet m.name

/-- The display names of the plan stay comments. -/
structure MetricValuePlan.HasQuietNames (p : MetricValuePlan) : Prop where
  name : Script.IsQuiet p.name
  metric : Script.IsQuiet p.metric.name
  segment : ∀ s ∈ p.segment, Script.IsQuiet s.name

namespace Script

/-! ## Remarks -/

theorem flatten_append (s t : String) : flatten (s ++ t) = flatten s ++ flatten t := by
  rw [← String.toList_inj, toList_flatten, String.toList_append, String.toList_append,
    toList_flatten, toList_flatten, List.map_append]

/-- A text without line ends whose first character that is not blank is no slash: whether what
stands before it is a comment does not depend on it. -/
def isPlainRemark (cs : List Char) : Bool :=
  cs.all (!isLineEnd ·) && (cs.find? (!Unicode.isBlank ·)).any (· != '/')

theorem isComment_append_of_isPlainRemark {cs : List Char} (h : isPlainRemark cs)
    (xs ys : List Char) : isComment (xs ++ (cs ++ ys)) = isComment xs := by
  rw [isPlainRemark, Bool.and_eq_true] at h
  replace h := h.2
  -- on `xs` up to its first character that is not blank, and then on `cs` if `xs` has none
  induction xs with
  | nil =>
    induction cs with
    | nil => cases h
    | cons c cs ih =>
      by_cases hc : Unicode.isBlank c = true
      · rw [List.find?_cons_of_neg (by simpa using hc)] at h
        rw [← ih h, List.nil_append, List.cons_append, isComment_cons_of_isBlank hc,
          List.nil_append]
      · rw [List.find?_cons_of_pos (by simpa using hc)] at h
        rw [List.nil_append, List.cons_append, isComment_cons_of_not_isBlank hc]
        simp_all [isComment, Text.trimStart]
  | cons x xs ih =>
    by_cases hx : Unicode.isBlank x = true
    · rw [List.cons_append, isComment_cons_of_isBlank hx, isComment_cons_of_isBlank hx, ih]
    · rw [List.cons_append, isComment_cons_of_not_isBlank hx, isComment_cons_of_not_isBlank hx]
      cases xs with
      | cons y xs => rfl
      | nil =>
        -- a single slash before the words is no comment, as the words begin with none
        cases cs with
        | nil => cases h
        | cons c cs =>
          have hc : c ≠ '/' := by
            rintro rfl
            cases h
          simp [hc]

theorem isQuiet_append {cs : List Char} (h : isPlainRemark cs) (s t : String) :
    IsQuiet (s ++ String.ofList cs ++ t) ↔ IsQuiet s ∧ IsQuiet t := by
  have hends : ∀ c ∈ cs, isLineEnd c = false := by
    rw [isPlainRemark, Bool.and_eq_true, List.all_eq_true] at h
    simpa using h.1
  have hflat : (flatten (String.ofList cs)).toList = cs := by
    rw [toList_flatten, String.toList_ofList]
    refine (List.map_congr_left fun c hc => ?_).trans (List.map_id _)
    have hc := hends c hc
    grind [isLineEnd]
  obtain ⟨first, rest, hrest⟩ :=
    List.exists_cons_of_ne_nil (List.splitOnP_ne_nil isLineEnd (flatten t).toList)
  have hjoined : (cs ++ (flatten t).toList).splitOnP isLineEnd = (cs ++ first) :: rest := by
    rw [splitOnP_append_of_forall hends, hrest, List.modifyHead_cons]
  -- the last line of `s`, the words and the first line of `t` are one line, and it is a comment
  -- exactly if the last line of `s` is one
  obtain ⟨init, last, hinit, hall⟩ := exists_splitOnP_append (flatten s).toList hjoined
  have hsame := isComment_append_of_isPlainRemark h last first
  rw [IsQuiet, IsQuiet, IsQuiet, strayLines, strayLines, strayLines, flatten_append, flatten_append,
    String.toList_append, String.toList_append, hflat, List.append_assoc, hall, hinit, hrest]
  cases init with
  | nil => simp
  | cons piece init => cases hlast : isComment last <;> simp [hsame, hlast]

/-! ## Scripts -/

/-- A remark stays a comment. -/
def Content.Quiet : Content → Prop
  | .comment s => IsQuiet s
  | _ => True

/-- The lines of code that a line gives. -/
def Line.codeLines (l : Line) : List (List Char) :=
  (l.chars.splitOnP isLineEnd).filter (!isComment ·)

theorem codeLines_render (ls : List Line) :
    codeLines (render ls) = ls.flatMap Line.codeLines ++ [[]] := by
  rw [codeLines, splitOnP_render rfl, List.filter_append, List.filter_flatMap]
  rfl

theorem codeLines_remark (depth : Nat) (s : String) :
    Line.codeLines ⟨depth, .comment s⟩ = strayLines s := by
  have hchars : Line.chars ⟨depth, .comment s⟩ =
      ((indentation "  " depth).toList ++ ['/', '/', ' ']) ++ (flatten s).toList := by
    simp [Line.chars, Line.text]
  have hends : ∀ c ∈ (indentation "  " depth).toList ++ ['/', '/', ' '], isLineEnd c = false := by
    intro c hc
    rcases List.mem_append.mp hc with hc | hc
    · rw [eq_of_mem_indentation hc]
      rfl
    · simp only [List.mem_cons, List.not_mem_nil, or_false] at hc
      rcases hc with rfl | rfl | rfl <;> rfl
  obtain ⟨first, rest, hrest⟩ :=
    List.exists_cons_of_ne_nil (List.splitOnP_ne_nil isLineEnd (flatten s).toList)
  have hcomment : isComment ((indentation "  " depth).toList ++ ['/', '/', ' '] ++ first) := by
    rw [List.append_assoc, isComment_indentation_append]
    rfl
  rw [Line.codeLines, hchars, splitOnP_append_of_forall hends, strayLines, hrest,
    List.modifyHead_cons, List.filter_cons_of_neg (by simpa using hcomment), List.tail_cons]

/-- A line without its remark gives the same code, or it is a remark and gives none. -/
theorem codeLines_without_names (l : Line) :
    (l.without .names).codeLines = l.codeLines ∧ l.content.Quiet ∨
      (l.without .names).codeLines = [] ∧ (l.content.Quiet ↔ l.codeLines = []) := by
  obtain ⟨depth, content⟩ := l
  cases content with
  | blank => exact .inl ⟨rfl, trivial⟩
  | comment s =>
    refine .inr ⟨(codeLines_remark depth "").trans isQuiet_empty, ?_⟩
    rw [codeLines_remark]
    rfl
  | code ts =>
    -- names stand in remarks only
    have htokens : ts.map (Token.without .names) = ts :=
      List.map_id'' (fun t => by cases t <;> rfl) ts
    refine .inl ⟨?_, trivial⟩
    rw [Line.without, Content.without, htokens]

theorem length_codeLines_without_names_le (ls : List Line) :
    (ls.flatMap fun l => (l.without .names).codeLines).length ≤
      (ls.flatMap Line.codeLines).length := by
  induction ls with
  | nil => exact Nat.le_refl 0
  | cons l ls ih =>
    rw [List.flatMap_cons, List.flatMap_cons, List.length_append, List.length_append]
    rcases codeLines_without_names l with ⟨h, -⟩ | ⟨h, -⟩
    · rw [h]
      omega
    · rw [h, List.length_nil]
      omega

/-- A remark that does not stay a comment adds lines of code, and nothing takes lines away: so the
code is the same only if no remark adds any. -/
theorem flatMap_codeLines_eq_iff (ls : List Line) :
    (ls.flatMap Line.codeLines = ls.flatMap fun l => (l.without .names).codeLines) ↔
      Every Content.Quiet ls := by
  induction ls with
  | nil => simp
  | cons l ls ih =>
    rw [List.flatMap_cons, List.flatMap_cons, every_cons, ← ih]
    rcases codeLines_without_names l with ⟨h, hquiet⟩ | ⟨h, hquiet⟩
    · simp [h, hquiet]
    · rw [h, hquiet, List.nil_append]
      constructor
      · intro heq
        have hlengths := congrArg List.length heq
        have hle := length_codeLines_without_names_le ls
        rw [List.length_append] at hlengths
        have hnil : l.codeLines = [] := List.length_eq_zero_iff.mp (by omega)
        rw [hnil] at heq
        exact ⟨hnil, heq⟩
      · rintro ⟨hnil, heq⟩
        rw [hnil, heq, List.nil_append]

/-- **The remarks of a script can be left out exactly if all of them stay comments.** -/
theorem codeLines_render_eq_iff (ls : List Line) :
    codeLines (render ls) = codeLines (render (without .names ls)) ↔ Every Content.Quiet ls := by
  rw [codeLines_render, codeLines_render, List.append_cancel_right_eq,
    ← flatMap_codeLines_eq_iff, without, List.flatMap_map]

/-! ## Plans -/

theorem isQuiet_ofList {cs : List Char} (h : isPlainRemark cs) : IsQuiet (String.ofList cs) := by
  have hquiet := isQuiet_append h "" ""
  simpa [isQuiet_empty] using hquiet

theorem isQuiet_before_name {cs : List Char} (h : isPlainRemark cs) (s : String) :
    IsQuiet (String.ofList cs ++ s) ↔ IsQuiet s := by
  have hquiet := isQuiet_append h "" s
  simpa [isQuiet_empty] using hquiet

theorem isQuiet_after_name {cs : List Char} (h : isPlainRemark cs) (s : String) :
    IsQuiet (s ++ String.ofList cs) ↔ IsQuiet s := by
  have hquiet := isQuiet_append h s ""
  simpa [isQuiet_empty] using hquiet

theorem isQuiet_metricComment (m : MetricStep) : IsQuiet (metricComment m) ↔ IsQuiet m.name :=
  isQuiet_before_name (by decide) m.name

@[simp]
theorem quiet_comment (s : String) : Content.Quiet (.comment s) ↔ IsQuiet s := Iff.rfl

@[simp]
theorem quiet_code (ts : List Token) : Content.Quiet (.code ts) := trivial

@[simp]
theorem quiet_blank : Content.Quiet .blank := trivial

theorem forall_indexed_isQuiet {p : ExperimentPlan} :
    (∀ m ∈ indexed p, IsQuiet m.2.name) ↔ ∀ m ∈ p.metrics, IsQuiet m.name := by
  have hmetrics : (indexed p).map (·.2) = p.metrics := List.map_snd_zip (by simp)
  rw [← hmetrics, List.forall_mem_map]

theorem every_quiet_helperLines : Every Content.Quiet helperLines := by
  have hremark : IsQuiet "Helper aggregation functions" := isQuiet_ofList (by decide)
  simp [helperLines, functionLines, hremark]

theorem every_quiet_predicates (p : ExperimentPlan) :
    Every Content.Quiet (predicates p) ↔ p.HasQuietNames := by
  have hremark : IsQuiet "Experiment exposure event" := isQuiet_ofList (by decide)
  have hparts : p.HasQuietNames ↔
      (∀ a ∈ p.activation, IsQuiet a.name) ∧ ∀ m ∈ p.metrics, IsQuiet m.name :=
    ⟨fun h => ⟨h.activation, h.metrics⟩, fun h => ⟨h.1, h.2⟩⟩
  rw [hparts, ← forall_indexed_isQuiet]
  cases h : p.activation <;>
    simp [predicates, predicateLines, functionLines, h, hremark, -Prod.forall]

variable {p : ExperimentPlan}

theorem every_quiet_eventSource (start stop : Time.Instant) (selectors : List String) :
    Every Content.Quiet (eventSource start stop selectors) := by
  have hselectors : Every Content.Quiet (separated selectorLine selectors) :=
    every_separated fun s => ⟨trivial, trivial⟩
  simp [eventSource, hselectors]

theorem every_quiet_eventFilter (h : p.HasQuietNames) : Every Content.Quiet (eventFilter p) := by
  have hremark : IsQuiet "Experiment exposure event" := isQuiet_ofList (by decide)
  have hlast : IsQuiet "Otherwise, ignore the event" := isQuiet_ofList (by decide)
  have hmetrics := forall_indexed_isQuiet.mpr h.metrics
  have hactivation := h.activation
  cases ha : p.activation <;>
    simp_all [eventFilter, stage, keepLines, -Prod.forall]

@[simp]
theorem quiet_actionLine (a : Action) : (a.line p).content.Quiet := by
  cases a <;> trivial

@[simp]
theorem every_quiet_capture (m : Nat × MetricStep) :
    Every Content.Quiet (stmtsLines p (capture m)) ↔ IsQuiet m.2.name := by
  simp [capture, stmtsLines, Stmt.lines, isQuiet_metricComment]

theorem every_quiet_activation (h : p.HasQuietNames) :
    Every Content.Quiet (stmtsLines p (activation p)) := by
  have hremark : IsQuiet "Process queued values" := isQuiet_ofList (by decide)
  have hmetrics := forall_indexed_isQuiet.mpr h.metrics
  have hqueued : ∀ m ∈ (indexed p).filter (·.2.isEarlyStart), IsQuiet m.2.name :=
    fun m hm => hmetrics m (List.mem_of_mem_filter hm)
  have hreplay : Every Content.Quiet (stmtsLines p (replayQueue p)) := by
    unfold replayQueue
    split
    · simpa [stmtsLines, Stmt.lines, stmtsLines_flatMap, hremark, -Prod.forall] using hqueued
    · simp [stmtsLines]
  cases ha : p.activation.isSome <;>
    simp [activation, ha, stmtsLines, Stmt.lines, hreplay]

theorem every_quiet_queueIfEarly : Every Content.Quiet (stmtsLines p (queueIfEarly p)) := by
  unfold queueIfEarly
  split <;> simp [stmtsLines, Stmt.lines]

theorem every_quiet_firstExposure (h : p.HasQuietNames) :
    Every Content.Quiet (stmtsLines p (firstExposure p)) := by
  cases hd : p.dimension.isSome <;> cases ha : p.activation.isNone <;>
    simp [firstExposure, hd, ha, stmtsLines, Stmt.lines, stmtsLines_append,
      every_quiet_activation h]

theorem every_quiet_awaitActivation (h : p.HasQuietNames) :
    Every Content.Quiet (stmtsLines p (awaitActivation p)) := by
  unfold awaitActivation
  cases ha : p.activation with
  | none => simp [stmtsLines]
  | some a =>
    have hremark : IsQuiet "Not activated yet" := isQuiet_ofList (by decide)
    have hname : IsQuiet ("Does this event activate it? (" ++ a.name ++ ")") := by
      have hbefore : IsQuiet ("Does this event activate it? (" ++ a.name) :=
        (isQuiet_before_name (by decide) a.name).mpr (h.activation a ha)
      exact (isQuiet_after_name (by decide) _).mpr hbefore
    simp [stmtsLines, Stmt.lines, stmtsLines_append, hremark, hname, every_quiet_activation h,
      every_quiet_queueIfEarly]

theorem every_quiet_reducerLines (h : p.HasQuietNames) :
    Every Content.Quiet (reducerLines p) := by
  have hentry : IsQuiet "User is put into the experiment" := isQuiet_ofList (by decide)
  have hbefore : IsQuiet "Not in the experiment yet" := isQuiet_ofList (by decide)
  have hseveral : IsQuiet "Saw multiple variants so ignore" := isQuiet_ofList (by decide)
  have hmetrics := forall_indexed_isQuiet.mpr h.metrics
  have hstate : Every Content.Quiet (initialState p) := by
    cases hd : p.dimension.isSome <;> cases ha : p.activation.isSome <;>
      cases he : p.hasEarlyStart <;> simp [initialState, hd, ha, he]
  have hbody : Every Content.Quiet (stmtsLines p (loopBody p)) := by
    simpa [loopBody, stmtsLines, Stmt.lines, stmtsLines_append, stmtsLines_flatMap, hentry, hbefore,
      hseveral, every_quiet_firstExposure h, every_quiet_queueIfEarly,
      every_quiet_awaitActivation h, -Prod.forall] using hmetrics
  simp [reducerLines, hstate, hbody]

theorem every_quiet_userGroup {userKey : Option String} {body : List Line}
    (hbody : Every Content.Quiet body) : Every Content.Quiet (userGroup userKey body) := by
  cases userKey <;> simp [userGroup, hbody]

theorem every_quiet_aggregationLines {m : MetricStep} (h : IsQuiet m.name) (dest : String) :
    Every Content.Quiet (aggregationLines m dest) := by
  have hremark := (isQuiet_metricComment m).mpr h
  unfold aggregationLines
  split
  · split <;> simp [hremark]
  · split <;> simp [hremark]

theorem every_quiet_metricSummaries {ms : List (Nat × MetricStep)}
    (h : ∀ m ∈ ms, IsQuiet m.2.name) : Every Content.Quiet (metricSummaries ms) := by
  induction ms with
  | nil => simp [metricSummaries]
  | cons m ms ih =>
    have hremark := (isQuiet_metricComment m.2).mpr (h m List.mem_cons_self)
    simp [metricSummaries, hremark, ih fun m' hm' => h m' (List.mem_cons_of_mem m hm')]

theorem every_quiet_userFilterLines : Every Content.Quiet (userFilterLines p) := by
  have hremark : IsQuiet "Remove users that are not in the experiment" :=
    isQuiet_ofList (by decide)
  have hchecks : ∀ c : UserCheck, c.line.content.Quiet := fun c => by cases c <;> trivial
  simp [userFilterLines, stage, hremark, hchecks]

theorem every_quiet_aggregates (h : p.HasQuietNames) : Every Content.Quiet (aggregates p) := by
  have hremark : IsQuiet "Aggregate the metric value arrays for each user" :=
    isQuiet_ofList (by decide)
  have hmetrics := forall_indexed_isQuiet.mpr h.metrics
  have hlines : ∀ m ∈ indexed p,
      Every Content.Quiet (aggregationLines m.2 ("user.value." ++ valuesName m.1)) :=
    fun m hm => every_quiet_aggregationLines (hmetrics m hm) _
  simpa [aggregates, stage, hremark, -Prod.forall] using hlines

theorem every_quiet_groups (h : p.HasQuietNames) : Every Content.Quiet (groups p) := by
  have hremark : IsQuiet (groupsRemark p) := by
    unfold groupsRemark
    split
    · exact isQuiet_ofList (by decide)
    · exact isQuiet_ofList (by decide)
  have htotal : IsQuiet "Total users in the group" := isQuiet_ofList (by decide)
  have hmetrics := forall_indexed_isQuiet.mpr h.metrics
  simp [groups, hremark, htotal, every_quiet_metricSummaries hmetrics]

theorem every_quiet_rows : Every Content.Quiet (rows p) := by
  have hremark : IsQuiet "Convert to an object that's easier to work with" :=
    isQuiet_ofList (by decide)
  have hdimension : (dimensionLine p).content.Quiet := by
    unfold dimensionLine
    split <;> trivial
  simp [rows, stage, textsVariable, summaryMembers, hremark, hdimension]

/-- **The remarks of an experiment's script stay comments exactly if the names of its plan do.** -/
theorem every_quiet_experimentLines (p : ExperimentPlan) :
    Every Content.Quiet (experimentLines p) ↔ p.HasQuietNames := by
  have hvalues : IsQuiet "Array of metric values for each user" := isQuiet_ofList (by decide)
  constructor
  · intro h
    simp only [experimentLines, every_append] at h
    exact (every_quiet_predicates p).mp (by tauto)
  · intro h
    simp [experimentLines, every_quiet_helperLines, (every_quiet_predicates p).mpr h,
      every_quiet_eventSource, every_quiet_eventFilter h, hvalues,
      every_quiet_userGroup (every_quiet_reducerLines h), every_quiet_userFilterLines,
      every_quiet_aggregates h, every_quiet_groups h, every_quiet_rows]

variable (q : MetricValuePlan)

theorem isQuiet_valueTitle : IsQuiet (q.name ++ " - Metric value (" ++ q.metric.name ++ ")") ↔
    IsQuiet q.name ∧ IsQuiet q.metric.name :=
  (isQuiet_after_name (by decide) _).trans (isQuiet_append (by decide) q.name q.metric.name)

theorem every_quiet_valueEventFilter :
    Every Content.Quiet (valueEventFilter q) ↔ ∀ s ∈ q.segment, IsQuiet s.name := by
  have hsegment (s : SegmentPredicate) :
      IsQuiet ("Limit to Segment - " ++ s.name) ↔ IsQuiet s.name :=
    isQuiet_before_name (by decide) s.name
  cases h : q.segment <;> simp [valueEventFilter, stage, h, hsegment]

theorem every_quiet_valueReducer : Every Content.Quiet (valueReducer q) := by
  have hpush : (pushLine (stateMember "metricValue") q.metric.value).content.Quiet := trivial
  simp [valueReducer, hpush]

theorem every_quiet_valueReduction : Every Content.Quiet (valueReduction q) := by
  have hoverall : IsQuiet "Overall summary metrics" := isQuiet_ofList (by decide)
  have hdates : IsQuiet "Summary metrics by date" := isQuiet_ofList (by decide)
  cases h : q.includeByDate <;>
    simp [valueReduction, byDateReducer, emptyDate, h, hoverall, hdates]

/-- **The remarks of a value query's script stay comments exactly if the names of its plan do.** -/
theorem every_quiet_metricValueLines :
    Every Content.Quiet (metricValueLines q) ↔ q.HasQuietNames := by
  have hvalue : IsQuiet "Metric value per user" := isQuiet_ofList (by decide)
  have husers : IsQuiet "Remove users that did not convert" := isQuiet_ofList (by decide)
  have haggregate : IsQuiet "Aggregate metric values per user" := isQuiet_ofList (by decide)
  have hobjects : IsQuiet "Transform into easy-to-use objects" := isQuiet_ofList (by decide)
  have hlines : Every Content.Quiet (metricValueLines q) ↔
      IsQuiet q.metric.name ∧ (IsQuiet q.name ∧ IsQuiet q.metric.name) ∧
        (∀ s ∈ q.segment, IsQuiet s.name) ∧
        Every Content.Quiet (aggregationLines q.metric "user.value.metricValue") := by
    simp [metricValueLines, predicateLines, functionLines, stage, valueRows,
      every_quiet_helperLines, every_quiet_eventSource, isQuiet_valueTitle,
      every_quiet_userGroup (every_quiet_valueReducer q), every_quiet_valueEventFilter,
      every_quiet_valueReduction, hvalue, husers, haggregate, hobjects]
  rw [hlines]
  constructor
  · rintro ⟨hmetric, ⟨hname, -⟩, hsegments, -⟩
    exact ⟨hname, hmetric, hsegments⟩
  · rintro ⟨hname, hmetric, hsegments⟩
    exact ⟨hmetric, ⟨hname, hmetric⟩, hsegments, every_quiet_aggregationLines hmetric _⟩

/-! ## The code of plans -/

/-- Scripts that differ in their remarks have the same code exactly if all remarks of one stay
comments as those of the other do. -/
theorem codeLines_render_eq_iff_of_without_eq {ls ms : List Line}
    (h : without .names ls = without .names ms) (hms : Every Content.Quiet ms) :
    codeLines (render ls) = codeLines (render ms) ↔ Every Content.Quiet ls := by
  rw [(codeLines_render_eq_iff ms).mpr hms, ← h, codeLines_render_eq_iff]

theorem codeLines_experimentScript_eq_iff {p q : ExperimentPlan}
    (h : p.without .names = q.without .names) (hq : q.HasQuietNames) :
    codeLines (experimentScript p) = codeLines (experimentScript q) ↔ p.HasQuietNames := by
  have hlines : without .names (experimentLines p) = without .names (experimentLines q) := by
    rw [← experimentLines_without, h, experimentLines_without]
  have hquiet := (every_quiet_experimentLines q).mpr hq
  exact (codeLines_render_eq_iff_of_without_eq hlines hquiet).trans (every_quiet_experimentLines p)

theorem codeLines_metricValueScript_eq_iff {p q : MetricValuePlan}
    (h : p.without .names = q.without .names) (hq : q.HasQuietNames) :
    codeLines (metricValueScript p) = codeLines (metricValueScript q) ↔ p.HasQuietNames := by
  have hlines : without .names (metricValueLines p) = without .names (metricValueLines q) := by
    rw [← metricValueLines_without, h, metricValueLines_without]
  have hquiet := (every_quiet_metricValueLines q).mpr hq
  exact (codeLines_render_eq_iff_of_without_eq hlines hquiet).trans (every_quiet_metricValueLines p)

/-- **When names stay in comments**: of two plans that are equal except for their display names, one
having only names that stay comments, the scripts have the same code exactly if the other has only
such names too. -/
theorem names_stay_in_comments (p q : ExperimentPlan) (v w : MetricValuePlan) :
    (p.without .names = q.without .names → q.HasQuietNames →
      (codeLines (experimentScript p) = codeLines (experimentScript q) ↔ p.HasQuietNames)) ∧
    (v.without .names = w.without .names → w.HasQuietNames →
      (codeLines (metricValueScript v) = codeLines (metricValueScript w) ↔ v.HasQuietNames)) :=
  ⟨codeLines_experimentScript_eq_iff, codeLines_metricValueScript_eq_iff⟩

/-- A metric on orders with this display name. -/
def orderMetric (name : String) : Metric :=
  { id := "fact__orders", name, kind := .count, events := "order",
    numerator := { factTable := "orders" } }

/-- The plan of an experiment with a metric of this name. -/
def checkoutPlan (name : String) : ExperimentPlan :=
  .build { experimentId := "checkout", start := ⟨0, 0⟩, stop := ⟨1209600, 0⟩ } [orderMetric name]
    none none

/-- The plan of a value query of this name. -/
def orderPlan (name : String) : MetricValuePlan :=
  .build { name, metric := orderMetric "Orders", start := ⟨0, 0⟩, stop := ⟨1209600, 0⟩ }

theorem checkoutPlan_without_names (name other : String) :
    (checkoutPlan name).without .names = (checkoutPlan other).without .names := rfl

theorem orderPlan_without_names (name other : String) :
    (orderPlan name).without .names = (orderPlan other).without .names := rfl

theorem hasQuietNames_checkoutPlan {name : String} :
    (checkoutPlan name).HasQuietNames ↔ IsQuiet name := by
  constructor
  · intro h
    exact h.metrics _ (List.mem_singleton_self _)
  · intro h
    exact ⟨nofun, fun m hm => by rw [List.mem_singleton.mp hm]; exact h⟩

theorem hasQuietNames_orderPlan {name : String} (h : IsQuiet name) :
    (orderPlan name).HasQuietNames := by
  have horders : IsQuiet "Orders" := by decide
  exact ⟨h, horders, nofun⟩

/-- A line feed becomes a blank, and a comment may follow a line separator. -/
theorem names_stay_in_comments_orders :
    ((checkoutPlan "Orders\n(all)").without .names = (checkoutPlan "Orders").without .names ∧
      (checkoutPlan "Orders").HasQuietNames ∧ (checkoutPlan "Orders\n(all)").HasQuietNames ∧
      codeLines (experimentScript (checkoutPlan "Orders\n(all)")) =
        codeLines (experimentScript (checkoutPlan "Orders"))) ∧
    (orderPlan "Weekly\u2028 // orders").without .names = (orderPlan "Weekly").without .names ∧
      (orderPlan "Weekly").HasQuietNames ∧ (orderPlan "Weekly\u2028 // orders").HasQuietNames ∧
      codeLines (metricValueScript (orderPlan "Weekly\u2028 // orders")) =
        codeLines (metricValueScript (orderPlan "Weekly")) := by
  have hplans := checkoutPlan_without_names "Orders\n(all)" "Orders"
  have hqueries := orderPlan_without_names "Weekly\u2028 // orders" "Weekly"
  have horders := hasQuietNames_checkoutPlan.mpr (show IsQuiet "Orders" by decide)
  have hall := hasQuietNames_checkoutPlan.mpr (show IsQuiet "Orders\n(all)" by decide)
  have hweekly := hasQuietNames_orderPlan (show IsQuiet "Weekly" by decide)
  have hcomment := hasQuietNames_orderPlan (show IsQuiet "Weekly\u2028 // orders" by decide)
  obtain ⟨hscripts, hvalueScripts⟩ := names_stay_in_comments (checkoutPlan "Orders\n(all)")
    (checkoutPlan "Orders") (orderPlan "Weekly\u2028 // orders") (orderPlan "Weekly")
  exact ⟨⟨hplans, horders, hall, (hscripts hplans horders).mpr hall⟩,
    hqueries, hweekly, hcomment, (hvalueScripts hqueries hweekly).mpr hcomment⟩

/-- What follows a line separator in a name is code. -/
theorem name_becomes_code :
    (checkoutPlan "Orders\u2028track()").without .names = (checkoutPlan "Orders").without .names ∧
      codeLines (experimentScript (checkoutPlan "Orders\u2028track()")) ≠
        codeLines (experimentScript (checkoutPlan "Orders")) := by
  have horders := hasQuietNames_checkoutPlan.mpr (show IsQuiet "Orders" by decide)
  have htrack : ¬ IsQuiet "Orders\u2028track()" := by decide
  have hplans := checkoutPlan_without_names "Orders\u2028track()" "Orders"
  refine ⟨hplans, fun hsame => htrack (hasQuietNames_checkoutPlan.mp ?_)⟩
  exact (codeLines_experimentScript_eq_iff hplans horders).mp hsame

end Script

end ExperimentQuery
