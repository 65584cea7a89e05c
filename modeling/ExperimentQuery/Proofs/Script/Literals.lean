import ExperimentQuery.Proofs.Script.Skeleton

/-!
# Quoted texts and string literals

A script quotes the names of events, the names and values of properties, and the ids of metrics and
experiments. The texts of a plan that its script quotes do not matter to the skeleton of the script:
each stays within its literal, and its literal on its line.

* `Expr.IsPlain`: an expression in which only literals have quotes;
* `isPlain_conditionExpr`, …: the expressions of scripts are such;
* `keepsLiterals_experimentLines`, `keepsLiterals_metricValueLines`: so literals can be told from
  the rest of a script;
* **`texts_stay_in_literals`**: the texts of a plan do not matter to the skeleton.
-/

namespace ExperimentQuery.Script

/-! ## Expressions -/

@[simp]
theorem isPlain_mark (m : Mark) : (Token.mark m).isPlain := by
  cases m <;> decide

@[simp]
theorem isPlain_number (x : Float) : (Token.number x).isPlain := isPlainText_scriptNumber x

@[simp]
theorem isPlain_str (s : String) : (Token.str s).isPlain := rfl

@[simp]
theorem isPlain_ident (name : String) : (Token.ident name).isPlain = isPlainText name := rfl

@[simp]
theorem isPlain_raw (s : String) : (Token.raw s).isPlain = isPlainText s := rfl

namespace Expr

/-- Only the literals of the expression have quotes. -/
def IsPlain (e : Expr) : Prop := ∀ t ∈ e.tokens, t.isPlain

@[simp]
theorem isPlain_ident (name : String) : (ident name).IsPlain ↔ isPlainText name := by
  simp [IsPlain, tokens]

@[simp]
theorem isPlain_number (x : Float) : (number x).IsPlain := by
  simp [IsPlain, tokens]

@[simp]
theorem isPlain_str (s : String) : (str s).IsPlain := by
  simp [IsPlain, tokens]

@[simp]
theorem isPlain_raw (s : String) : (raw s).IsPlain ↔ isPlainText s := by
  simp [IsPlain, tokens]

@[simp]
theorem isPlain_member (e : Expr) (name : String) :
    (member e name).IsPlain ↔ e.IsPlain ∧ isPlainText name := by
  simp [IsPlain, tokens, or_imp, forall_and]

@[simp]
theorem isPlain_binary (op : BinaryOp) (l r : Expr) :
    (binary op l r).IsPlain ↔ l.IsPlain ∧ r.IsPlain := by
  simp [IsPlain, tokens, or_imp, forall_and]

@[simp]
theorem isPlain_not (e : Expr) : e.not.IsPlain ↔ e.IsPlain := by
  simp [IsPlain, tokens]

@[simp]
theorem isPlain_paren (e : Expr) : e.paren.IsPlain ↔ e.IsPlain := by
  simp [IsPlain, tokens, or_imp, forall_and]

theorem isPlain_listTokens {es : List Expr} (h : ∀ e ∈ es, e.IsPlain) :
    ∀ t ∈ listTokens es, t.isPlain := by
  induction es with
  | nil => exact nofun
  | cons e es ih =>
    have he := h e List.mem_cons_self
    have hes := ih fun e' he' => h e' (List.mem_cons_of_mem e he')
    cases es with
    | nil => exact he
    | cons e' es =>
      simp only [listTokens, List.forall_mem_append, List.forall_mem_cons]
      exact ⟨he, Script.isPlain_mark _, Script.isPlain_mark _, hes⟩

theorem isPlain_call {e : Expr} {args : List Expr} (he : e.IsPlain) (h : ∀ a ∈ args, a.IsPlain) :
    (call e args).IsPlain := by
  have hargs := isPlain_listTokens h
  simpa [IsPlain, tokens, or_imp, forall_and] using ⟨he, hargs⟩

theorem isPlain_array {items : List Expr} (h : ∀ a ∈ items, a.IsPlain) : (array items).IsPlain := by
  have hitems := isPlain_listTokens h
  simpa [IsPlain, tokens, or_imp, forall_and] using hitems

@[simp]
theorem isPlain_property (path : List String) : (property path).IsPlain := by
  have hevent : isPlainText "event" := by decide
  have hproperties : isPlainText "properties" := by decide
  rw [IsPlain, property, tokens_foldl_index, List.forall_mem_append, List.forall_mem_flatMap]
  exact ⟨(isPlain_member _ _).mpr ⟨(isPlain_ident _).mpr hevent, hproperties⟩, by simp⟩

theorem isPlain_conj {es : List Expr} (h : ∀ e ∈ es, e.IsPlain) : (conj es).IsPlain := by
  cases es with
  | nil =>
    have htrue : isPlainText "true" := by decide
    exact (isPlain_raw _).mpr htrue
  | cons e es =>
    obtain ⟨he, hes⟩ := List.forall_mem_cons.mp h
    rw [IsPlain, conj, tokens_foldl_and, List.forall_mem_append, List.forall_mem_flatMap]
    refine ⟨he, fun e' he' => ?_⟩
    simpa [IsPlain] using hes e' he'

@[simp]
theorem isPlain_eventName : eventName.IsPlain := by
  have hevent : isPlainText "event" := by decide
  have hname : isPlainText "name" := by decide
  simp [eventName, hevent, hname]

@[simp]
theorem isPlain_eventTime : eventTime.IsPlain := by
  have hevent : isPlainText "event" := by decide
  have htime : isPlainText "time" := by decide
  simp [eventTime, hevent, htime]

end Expr

theorem isPlain_conditionExpr (t : ConditionTest) : (conditionExpr t).IsPlain := by
  have hmatch : (matchExpr (Expr.property t.path) t.value).IsPlain := by
    have hname : isPlainText "match" := by decide
    exact Expr.isPlain_call (by simp [hname]) (by simp)
  cases h : t.op <;> simp [conditionExpr, h, hmatch]

theorem isPlain_nameExpr (names : List String) : (nameExpr names).IsPlain := by
  unfold nameExpr
  split
  · simp
  · have hincludes : isPlainText "includes" := by decide
    refine Expr.isPlain_call ?_ (by simp)
    rw [Expr.isPlain_member]
    exact ⟨Expr.isPlain_array (by simp), hincludes⟩

theorem isPlain_eventPredicateExpr (p : EventPredicate) : (eventPredicateExpr p).IsPlain := by
  refine Expr.isPlain_conj (List.forall_mem_cons.mpr ⟨isPlain_nameExpr p.names, ?_⟩)
  exact List.forall_mem_map.mpr fun t _ => isPlain_conditionExpr t

theorem isPlain_segmentExpr (p : SegmentPredicate) : (segmentExpr p).IsPlain :=
  Expr.isPlain_conj (List.forall_mem_map.mpr fun t _ => isPlain_conditionExpr t)

theorem isPlain_exposureExpr (p : ExposurePredicate) : (exposureExpr p).IsPlain :=
  Expr.isPlain_conj (by simp [Expr.int])

theorem isPlain_callOnEvent {name : String} (h : isPlainText name) :
    (callOnEvent name).IsPlain := by
  have hevent : isPlainText "event" := by decide
  exact Expr.isPlain_call (by simp [h]) (by simp [hevent])

theorem isPlain_metricTestName (i : Nat) : isPlainText (metricTestName i) := by
  have hprefix : isPlainText "isMetric" := by decide
  simp [metricTestName, hprefix]

theorem isPlain_captureExpr (i : Nat) (window : List WindowBound) :
    (captureExpr i window).IsPlain := by
  have hcall := isPlain_callOnEvent (isPlain_metricTestName i)
  have hstart : isPlainText "state.start" := by decide
  have hbounds : ∀ b ∈ window, (boundExpr "state.start" b).IsPlain := by
    intro b _
    cases b <;> simp [boundExpr, hstart, Expr.int]
  have hwindow : (Expr.conj (window.map (boundExpr "state.start"))).IsPlain :=
    Expr.isPlain_conj (List.forall_mem_map.mpr hbounds)
  cases hempty : window.isEmpty <;> simp [captureExpr, windowExpr?, hempty, hcall, hwindow]

theorem isPlain_stateMember {name : String} (h : isPlainText name) :
    (stateMember name).IsPlain := by
  have hstate : isPlainText "state" := by decide
  simp [stateMember, hstate, h]

theorem isPlain_checkExpr (p : ExperimentPlan) (c : Check) : (c.expr p).IsPlain := by
  cases c with
  | isExposure => exact isPlain_callOnEvent (by decide)
  | notInExperiment => exact (Expr.isPlain_not _).mpr (isPlain_stateMember (by decide))
  | otherVariation =>
    have hvariation : (stateMember "variation").IsPlain := isPlain_stateMember (by decide)
    simp [Check.expr, hvariation]
  | multipleVariants => exact isPlain_stateMember (by decide)
  | notActivated => exact (Expr.isPlain_not _).mpr (isPlain_stateMember (by decide))
  | notActivation => exact (Expr.isPlain_not _).mpr (isPlain_callOnEvent (by decide))
  | captures i => exact isPlain_captureExpr i _

/-! ## Lines -/

@[simp]
theorem keepsLiterals_raw (s : String) : Content.KeepsLiterals (.code [.raw s]) :=
  .inl (by simp [Token.isLiteral])

@[simp]
theorem keepsLiterals_raw_raw (s t : String) : Content.KeepsLiterals (.code [.raw s, .raw t]) :=
  .inl (by simp [Token.isLiteral])

@[simp]
theorem keepsLiterals_comment (s : String) : Content.KeepsLiterals (.comment s) := trivial

@[simp]
theorem keepsLiterals_blank : Content.KeepsLiterals .blank := trivial

theorem keepsLiterals_cons {t : Token} {ts : List Token} (ht : t.opens && t.isPlain)
    (hts : ∀ u ∈ ts, u.isPlain) : Content.KeepsLiterals (.code (t :: ts)) := by
  rw [Bool.and_eq_true] at ht
  exact .inr ⟨⟨t, rfl, ht.1⟩, List.forall_mem_cons.mpr ⟨ht.2, hts⟩⟩

theorem keepsLiterals_around {t : Token} {e : Expr} {ts : List Token} (ht : t.opens && t.isPlain)
    (he : e.IsPlain) (hts : ∀ u ∈ ts, u.isPlain) :
    Content.KeepsLiterals (.code (t :: (e.tokens ++ ts))) :=
  keepsLiterals_cons ht (List.forall_mem_append.mpr ⟨he, hts⟩)

theorem keepsLiterals_helperLines : Every Content.KeepsLiterals helperLines := by
  simp [helperLines, functionLines]

theorem keepsLiterals_predicateLines (remark name : String) {e : Expr} (he : e.IsPlain) :
    Every Content.KeepsLiterals (predicateLines remark name e) := by
  have hline : Content.KeepsLiterals (.code (.raw "return " :: (e.tokens ++ [.raw ";"]))) :=
    keepsLiterals_around (by decide) he (by decide)
  simp [predicateLines, functionLines, hline]

theorem keepsLiterals_predicates (p : ExperimentPlan) :
    Every Content.KeepsLiterals (predicates p) := by
  have hmetric (remark name : String) (e : EventPredicate) :=
    keepsLiterals_predicateLines remark name (isPlain_eventPredicateExpr e)
  have hexposure (remark name : String) :=
    keepsLiterals_predicateLines remark name (isPlain_exposureExpr p.exposure)
  cases h : p.activation <;> simp [predicates, h, hmetric, hexposure]

theorem keepsLiterals_selectorLine (name : String) {sep : String} (hsep : isPlainText sep) :
    (selectorLine name sep).content.KeepsLiterals := by
  have hcolon : isPlainText ": " := by decide
  have hclose : isPlainText "\x7d" := by decide
  exact keepsLiterals_cons (by decide) (by simp [hcolon, hclose, hsep])

theorem keepsLiterals_eventSource (start stop : Time.Instant) (selectors : List String) :
    Every Content.KeepsLiterals (eventSource start stop selectors) := by
  have hselectors : Every Content.KeepsLiterals (separated selectorLine selectors) :=
    every_separated fun s =>
      ⟨keepsLiterals_selectorLine s (by decide), keepsLiterals_selectorLine s (by decide)⟩
  have hdate (name : String) (t : Time.Instant) :
      Content.KeepsLiterals (.code [.str name, .raw ": ", dateToken t, .raw ","]) :=
    keepsLiterals_cons (by simp) (by simp [dateToken]; decide)
  have hlist : Content.KeepsLiterals (.code [.str "event_selectors", .raw ": ["]) :=
    keepsLiterals_cons (by simp) (by decide)
  simp [eventSource, hselectors, hdate, hlist]

theorem keepsLiterals_keepLines (remark name : String) :
    Every Content.KeepsLiterals (keepLines remark name) := by
  have hline : Content.KeepsLiterals
      (.code (.raw "if (" :: ((callOnEvent name).tokens ++ [.raw ") return true;"]))) := by
    refine .inl ?_
    simp [callOnEvent, Expr.tokens, Expr.listTokens, Token.isLiteral]
  simp [keepLines, hline]

theorem keepsLiterals_eventFilter (p : ExperimentPlan) :
    Every Content.KeepsLiterals (eventFilter p) := by
  cases h : p.activation <;> simp [eventFilter, stage, h, keepsLiterals_keepLines]

theorem keepsLiterals_assign {name : String} {value : List Token} (hname : isPlainText name)
    (hvalue : ∀ t ∈ value, t.isPlain) : (assign name value).content.KeepsLiterals := by
  have hequals : isPlainText " = " := by decide
  have hend : isPlainText ";" := by decide
  refine keepsLiterals_cons (t := .ident "state") (by decide) ?_
  simpa [hname, hequals, hend, or_imp, forall_and] using hvalue

theorem keepsLiterals_pushLine {name : String} (hname : isPlainText name) (v : ValueExpr) :
    (pushLine (stateMember name) v).content.KeepsLiterals := by
  have hpush : isPlainText "push" := by decide
  have hend : isPlainText ";" := by decide
  cases v with
  | property path =>
    have hpath : ∀ t ∈ (Expr.property path).tokens, t.isPlain := Expr.isPlain_property path
    refine keepsLiterals_cons (t := .ident "state") (by decide) ?_
    simpa [hname, hpush, hend, or_imp, forall_and, valueExpr, Expr.listTokens] using hpath
  | _ =>
    -- a value that is passed on as written may have quotes, but then the line has no literal
    refine .inl ?_
    simp [valueExpr, Expr.tokens, Expr.listTokens, Token.isLiteral, stateMember]

theorem isPlain_valuesName (i : Nat) : isPlainText (valuesName i) := by
  have hprefix : isPlainText "m" := by decide
  simp [valuesName, hprefix]

theorem keepsLiterals_actionLine (p : ExperimentPlan) (a : Action) :
    (a.line p).content.KeepsLiterals := by
  cases a with
  | takeVariation => exact keepsLiterals_assign (by decide) (Expr.isPlain_property _)
  | takeDimension =>
    have hnull : isPlainText "null" := by decide
    refine keepsLiterals_assign (by decide) ?_
    have hvalue : (Expr.binary .or (.paren (Expr.property ((p.dimension.map (·.path)).getD [])))
        (.raw "null")).IsPlain := by
      simp [hnull]
    exact hvalue
  | push i => exact keepsLiterals_pushLine (isPlain_valuesName i) _
  | start => exact keepsLiterals_assign (by decide) Expr.isPlain_eventTime
  | queue => exact keepsLiterals_raw _
  | next => exact keepsLiterals_raw _
  | _ => exact keepsLiterals_assign (by decide) (by decide)

mutual

theorem keepsLiterals_stmtLines (p : ExperimentPlan) :
    ∀ s : Stmt, Every Content.KeepsLiterals (s.lines p)
  | .comment s => by simp [Stmt.lines]
  | .act a => by simp [Stmt.lines, keepsLiterals_actionLine]
  | .when c body => by
    have htest : Content.KeepsLiterals
        (.code (.raw "if (" :: ((c.expr p).tokens ++ [.raw ") ", .raw "\x7b"]))) :=
      keepsLiterals_around (by decide) (isPlain_checkExpr p c) (by decide)
    simp [Stmt.lines, keepsLiterals_stmtsLines p body, htest]
  | .replay body => by simp [Stmt.lines, keepsLiterals_stmtsLines p body]

theorem keepsLiterals_stmtsLines (p : ExperimentPlan) :
    ∀ ss : List Stmt, Every Content.KeepsLiterals (stmtsLines p ss)
  | [] => by simp [stmtsLines]
  | s :: ss => by simp [stmtsLines, keepsLiterals_stmtLines p s, keepsLiterals_stmtsLines p ss]

end

theorem keepsLiterals_reducerLines (p : ExperimentPlan) :
    Every Content.KeepsLiterals (reducerLines p) := by
  have hstate : Every Content.KeepsLiterals (initialState p) := by
    cases hd : p.dimension.isSome <;> cases ha : p.activation.isSome <;>
      cases he : p.hasEarlyStart <;> simp [initialState, hd, ha, he]
  simp [reducerLines, hstate, keepsLiterals_stmtsLines]

theorem keepsLiterals_userGroup (userKey : Option String) {body : List Line}
    (hbody : Every Content.KeepsLiterals body) :
    Every Content.KeepsLiterals (userGroup userKey body) := by
  refine every_braceBlock.mpr ⟨?_, hbody, keepsLiterals_raw _⟩
  refine keepsLiterals_cons (by decide) ?_
  have hbracket : isPlainText "[" := by decide
  have hcomma : isPlainText "], " := by decide
  cases userKey with
  | none => decide
  | some name => simp [hbracket, hcomma]; decide

theorem keepsLiterals_userFilterLines (p : ExperimentPlan) :
    Every Content.KeepsLiterals (userFilterLines p) := by
  have hcheck (c : UserCheck) : c.line.content.KeepsLiterals := by
    cases c <;> exact keepsLiterals_raw _
  simp [userFilterLines, stage, hcheck]

theorem keepsLiterals_aggregationLines (m : MetricStep) (dest : String) :
    Every Content.KeepsLiterals (aggregationLines m dest) := by
  unfold aggregationLines
  split
  · split <;> simp
  · split <;> simp

theorem keepsLiterals_aggregates (p : ExperimentPlan) :
    Every Content.KeepsLiterals (aggregates p) := by
  simp [aggregates, stage, keepsLiterals_aggregationLines]

theorem keepsLiterals_summaryTokens (name : String) {after : List Token}
    (hafter : ∀ t ∈ after, t.isPlain) :
    Content.KeepsLiterals (.code (summaryTokens name ++ after)) := by
  have hclose : isPlainText ")" := by decide
  refine keepsLiterals_cons (by decide) ?_
  simpa [hclose] using hafter

theorem keepsLiterals_metricSummaries (ms : List (Nat × MetricStep)) :
    Every Content.KeepsLiterals (metricSummaries ms) := by
  induction ms with
  | nil => exact every_nil
  | cons m ms ih =>
    have hcomma : ∀ t ∈ [Token.raw (if ms.isEmpty then "" else ",")], t.isPlain := by
      cases ms.isEmpty <;> decide
    exact every_cons.mpr ⟨trivial,
      every_cons.mpr ⟨keepsLiterals_summaryTokens ("value." ++ valuesName m.1) hcomma, ih⟩⟩

theorem keepsLiterals_groups (p : ExperimentPlan) : Every Content.KeepsLiterals (groups p) := by
  have hkeys : (groupKeys p).IsPlain := by
    refine Expr.isPlain_array ?_
    cases p.dimension.isSome <;> simp
  have hopening : Content.KeepsLiterals
      (.code (.raw ".groupBy(" :: ((groupKeys p).tokens ++ [.raw ", ["]))) :=
    keepsLiterals_around (by decide) hkeys (by decide)
  simp [groups, hopening, keepsLiterals_metricSummaries]

theorem keepsLiterals_textsVariable {name : String} (texts : List String)
    (hname : (Token.raw ("var " ++ name ++ " = ")).opens &&
      (Token.raw ("var " ++ name ++ " = ")).isPlain) :
    (textsVariable name texts).content.KeepsLiterals := by
  have htexts : (Expr.array (texts.map .str)).IsPlain :=
    Expr.isPlain_array (List.forall_mem_map.mpr fun s _ => Expr.isPlain_str s)
  exact keepsLiterals_around hname htexts (by decide)

theorem keepsLiterals_rows (p : ExperimentPlan) : Every Content.KeepsLiterals (rows p) := by
  have hids : (textsVariable "metricIds" (p.metrics.map (·.id))).content.KeepsLiterals :=
    keepsLiterals_textsVariable _ (by decide)
  have hkinds : (textsVariable "metricTypes" (p.metrics.map (·.kind.name))).content.KeepsLiterals :=
    keepsLiterals_textsVariable _ (by decide)
  have hdimension : (dimensionLine p).content.KeepsLiterals := by
    unfold dimensionLine
    split
    · exact keepsLiterals_cons (by decide) (by decide)
    · exact keepsLiterals_cons (by decide) (by decide)
  simp [rows, stage, summaryMembers, hids, hkinds, hdimension]

/-- **Literals can be told from the rest of an experiment's script.** -/
theorem keepsLiterals_experimentLines (p : ExperimentPlan) :
    Every Content.KeepsLiterals (experimentLines p) := by
  simp [experimentLines, keepsLiterals_helperLines, keepsLiterals_predicates,
    keepsLiterals_eventSource, keepsLiterals_eventFilter,
    keepsLiterals_userGroup p.userKey (keepsLiterals_reducerLines p), keepsLiterals_userFilterLines,
    keepsLiterals_aggregates, keepsLiterals_groups, keepsLiterals_rows]

theorem keepsLiterals_valueEventFilter (p : MetricValuePlan) :
    Every Content.KeepsLiterals (valueEventFilter p) := by
  have hsegment (s : SegmentPredicate) : Content.KeepsLiterals
      (.code (.raw "if (!(" :: ((segmentExpr s).tokens ++ [.raw ")) return false;"]))) :=
    keepsLiterals_around (by decide) (isPlain_segmentExpr s) (by decide)
  cases h : p.segment <;> simp [valueEventFilter, stage, h, hsegment]

theorem keepsLiterals_valueReducer (p : MetricValuePlan) :
    Every Content.KeepsLiterals (valueReducer p) := by
  have hpush : (pushLine (stateMember "metricValue") p.metric.value).content.KeepsLiterals :=
    keepsLiterals_pushLine (by decide) p.metric.value
  simp [valueReducer, hpush]

theorem keepsLiterals_valueReduction (p : MetricValuePlan) :
    Every Content.KeepsLiterals (valueReduction p) := by
  have hdates : Every Content.KeepsLiterals byDateReducer := by
    have htype : Content.KeepsLiterals (.code [.raw "type: ", .str "byDate", .raw ","]) :=
      keepsLiterals_cons (by decide) (by decide)
    simp [byDateReducer, emptyDate, htype]
  have halone : Content.KeepsLiterals (.code (summaryTokens "value.metricValue")) := by
    have hempty := keepsLiterals_summaryTokens "value.metricValue" (List.forall_mem_nil _)
    rwa [List.append_nil] at hempty
  have hcomma : Content.KeepsLiterals (.code (summaryTokens "value.metricValue" ++ [.raw ","])) :=
    keepsLiterals_summaryTokens _ (by decide)
  cases h : p.includeByDate <;> simp [valueReduction, h, hdates, halone, hcomma]

theorem keepsLiterals_valueRows : Every Content.KeepsLiterals valueRows := by
  have hoverall : Content.KeepsLiterals
      (.code [.raw "if (val.count) return Object.assign(\x7btype: ", .str "overall",
        .raw "\x7d, val);"]) :=
    keepsLiterals_cons (by decide) (by decide)
  simp [valueRows, stage, hoverall]

/-- **Literals can be told from the rest of a value query's script.** -/
theorem keepsLiterals_metricValueLines (p : MetricValuePlan) :
    Every Content.KeepsLiterals (metricValueLines p) := by
  have hpredicate := keepsLiterals_predicateLines p.metric.name "isMetric"
    (isPlain_eventPredicateExpr p.metric.predicate)
  simp [metricValueLines, stage, keepsLiterals_helperLines, hpredicate, keepsLiterals_eventSource,
    keepsLiterals_valueEventFilter,
    keepsLiterals_userGroup p.userKey (keepsLiterals_valueReducer p),
    keepsLiterals_aggregationLines, keepsLiterals_valueReduction, keepsLiterals_valueRows]

/-! ## Plans -/

/-- Scripts that differ in their literals have the same skeleton. -/
theorem skeleton_render_eq_of_without_eq {ls ms : List Line}
    (h : without .texts ls = without .texts ms) (hls : Every Content.KeepsLiterals ls)
    (hms : Every Content.KeepsLiterals ms) : skeleton (render ls) = skeleton (render ms) := by
  rw [← skeleton_render hls, h, skeleton_render hms]

theorem length_feedLines_eq {s t : String} (h : skeleton s = skeleton t) :
    (feedLines s).length = (feedLines t).length := by
  have hlength := congrArg List.length h
  rwa [skeleton, skeleton, List.length_map, List.length_map] at hlength

/-- **Quoted texts stay in their literals**: the scripts of plans that are equal except for the
texts that scripts quote have as many lines, and the same skeleton. -/
theorem texts_stay_in_literals :
    (∀ p q : ExperimentPlan, p.without .texts = q.without .texts →
      (feedLines (experimentScript p)).length = (feedLines (experimentScript q)).length ∧
        skeleton (experimentScript p) = skeleton (experimentScript q)) ∧
    ∀ p q : MetricValuePlan, p.without .texts = q.without .texts →
      (feedLines (metricValueScript p)).length = (feedLines (metricValueScript q)).length ∧
        skeleton (metricValueScript p) = skeleton (metricValueScript q) := by
  constructor
  · intro p q h
    have hlines : without .texts (experimentLines p) = without .texts (experimentLines q) := by
      rw [← experimentLines_without, h, experimentLines_without]
    have hskeleton := skeleton_render_eq_of_without_eq hlines (keepsLiterals_experimentLines p)
      (keepsLiterals_experimentLines q)
    exact ⟨length_feedLines_eq hskeleton, hskeleton⟩
  · intro p q h
    have hlines : without .texts (metricValueLines p) = without .texts (metricValueLines q) := by
      rw [← metricValueLines_without, h, metricValueLines_without]
    have hskeleton := skeleton_render_eq_of_without_eq hlines (keepsLiterals_metricValueLines p)
      (keepsLiterals_metricValueLines q)
    exact ⟨length_feedLines_eq hskeleton, hskeleton⟩

/-- A step that compares with this text. -/
def quotingStep (text : String) : MetricStep :=
  { id := text
    name := "Orders"
    kind := .count
    predicate := ⟨[text], [⟨[text], .eq, text, none⟩, ⟨[text], .gt, "10", none⟩]⟩
    value := .property [text, text]
    window := []
    delayMillis := 0
    aggregation := .sum
    cap := none
    aggregateFilter := none }

/-- A plan that quotes this text wherever a plan can quote one. -/
def quotingPlan (text : String) : ExperimentPlan :=
  { experimentId := text
    start := ⟨0, 0⟩
    stop := ⟨1209600, 0⟩
    selectors := [text, text]
    exposure := ⟨text, [text], text, 0, 1209600000⟩
    variationPath := [text]
    userKey := some text
    dimension := some ⟨[text]⟩
    activation := some ⟨"Visits", ⟨[text, text], [⟨[text], .notMatching, text, none⟩]⟩⟩
    metrics := [quotingStep text] }

/-- A value query that quotes this text. -/
def quotingQuery (text : String) : MetricValuePlan :=
  { name := "Weekly orders"
    start := ⟨0, 0⟩
    stop := ⟨1209600, 0⟩
    selectors := [text]
    segment := some ⟨"Buyers", [⟨[text], .ne, text, none⟩]⟩
    metric := quotingStep text
    includeByDate := true
    userKey := none }

/-- Neither a quote nor a line feed in a text ends its literal. -/
theorem texts_stay_in_literals_quote :
    ((quotingPlan "\"\n]").without .texts = (quotingPlan "order").without .texts ∧
      (feedLines (experimentScript (quotingPlan "\"\n]"))).length =
        (feedLines (experimentScript (quotingPlan "order"))).length ∧
      skeleton (experimentScript (quotingPlan "\"\n]")) =
        skeleton (experimentScript (quotingPlan "order"))) ∧
    (quotingQuery "\"\n]").without .texts = (quotingQuery "order").without .texts ∧
      (feedLines (metricValueScript (quotingQuery "\"\n]"))).length =
        (feedLines (metricValueScript (quotingQuery "order"))).length ∧
      skeleton (metricValueScript (quotingQuery "\"\n]")) =
        skeleton (metricValueScript (quotingQuery "order")) := by
  have hplans : (quotingPlan "\"\n]").without .texts = (quotingPlan "order").without .texts := rfl
  have hqueries : (quotingQuery "\"\n]").without .texts =
      (quotingQuery "order").without .texts := rfl
  exact ⟨⟨hplans, texts_stay_in_literals.1 _ _ hplans⟩,
    hqueries, texts_stay_in_literals.2 _ _ hqueries⟩

end ExperimentQuery.Script
