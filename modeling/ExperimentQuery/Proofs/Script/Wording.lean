import ExperimentQuery.Script.Experiment
import ExperimentQuery.Script.MetricValue
import Mathlib.Data.List.Basic
import Mathlib.Tactic.Simps.Basic

/-!
# The wording of scripts

A script takes two kinds of free text from its plan: names that are displayed, which it writes into
comments, and texts that its tests compare with, which it writes as string literals. A plan without
its wording of one kind has the empty text in each of these places; its script has empty comments,
or empty literals, and is the same otherwise.

* `Wording`: the two kinds;
* `ExperimentPlan.without`, `MetricValuePlan.without`: plans without their wording of one kind;
* `Script.Line.without`: lines without comments, or without literals;
* `Script.bare_conditionExpr`, …: expressions;
* `Script.without_stmtsLines`, …: parts of a script;
* **`Script.experimentLines_without`**, **`Script.metricValueLines_without`**: whole scripts.
-/

namespace ExperimentQuery

/-! ## Plans without wording -/

/-- The kinds of free text in a plan. -/
inductive Wording where
  /-- Names that are displayed. -/
  | names
  /-- Texts that events are compared with, and names of properties. -/
  | texts
  deriving Repr, DecidableEq

namespace Wording

/-- A displayed name, without the names. -/
def name : Wording → String → String
  | names, _ => ""
  | texts, s => s

/-- A quoted text, without the texts. -/
def text : Wording → String → String
  | names, s => s
  | texts, _ => ""

/-- What a quoted text stands for as a pattern, without the texts. -/
def pattern : Wording → Option Regex → Option Regex
  | names, r => r
  | texts, _ => none

@[simp]
theorem name_name (w : Wording) (s : String) : w.name (w.name s) = w.name s := by
  cases w <;> rfl

@[simp]
theorem text_text (w : Wording) (s : String) : w.text (w.text s) = w.text s := by
  cases w <;> rfl

@[simp]
theorem name_append_name (w : Wording) (a s : String) :
    w.name (a ++ w.name s) = w.name (a ++ s) := by
  cases w <;> rfl

@[simp]
theorem name_append_name_append (w : Wording) (a s b : String) :
    w.name (a ++ w.name s ++ b) = w.name (a ++ s ++ b) := by
  cases w <;> rfl

end Wording

/-- Whether the value of a condition is compared as a text. -/
def ConditionOp.comparesText : ConditionOp → Bool
  | .eq | .ne | .matching | .notMatching => true
  | .gt | .ge | .lt | .le => false

section

variable (w : Wording)

/-- The condition without its wording. A value that is compared as a number is no wording. -/
@[simps]
def ConditionTest.without (t : ConditionTest) : ConditionTest :=
  { path := t.path.map w.text
    op := t.op
    value := if t.op.comparesText then w.text t.value else t.value
    pattern := w.pattern t.pattern }

/-- The predicate without its wording. -/
@[simps]
def EventPredicate.without (p : EventPredicate) : EventPredicate :=
  ⟨p.names.map w.text, p.conditions.map (·.without w)⟩

/-- The segment without its wording. -/
@[simps]
def SegmentPredicate.without (p : SegmentPredicate) : SegmentPredicate :=
  ⟨w.name p.name, p.conditions.map (·.without w)⟩

/-- The exposure without its wording. -/
@[simps]
def ExposurePredicate.without (p : ExposurePredicate) : ExposurePredicate :=
  { p with
    eventName := w.text p.eventName
    experimentIdPath := p.experimentIdPath.map w.text
    experimentId := w.text p.experimentId }

/-- The value without its wording. An expression that is passed on as written is no wording. -/
def ValueExpr.without : ValueExpr → ValueExpr
  | property path => property (path.map w.text)
  | v => v

/-- The metric without its wording. -/
@[simps]
def MetricStep.without (m : MetricStep) : MetricStep :=
  { m with
    id := w.text m.id
    name := w.name m.name
    predicate := m.predicate.without w
    value := m.value.without w }

/-- The activation without its wording. -/
@[simps]
def ActivationStep.without (a : ActivationStep) : ActivationStep :=
  ⟨w.name a.name, a.predicate.without w⟩

/-- **The plan without its wording.** -/
@[simps]
def ExperimentPlan.without (p : ExperimentPlan) : ExperimentPlan :=
  { p with
    experimentId := w.text p.experimentId
    selectors := p.selectors.map w.text
    exposure := p.exposure.without w
    variationPath := p.variationPath.map w.text
    userKey := p.userKey.map w.text
    dimension := p.dimension.map fun d => ⟨d.path.map w.text⟩
    activation := p.activation.map (·.without w)
    metrics := p.metrics.map (·.without w) }

/-- **The plan without its wording.** -/
@[simps]
def MetricValuePlan.without (p : MetricValuePlan) : MetricValuePlan :=
  { p with
    name := w.name p.name
    selectors := p.selectors.map w.text
    segment := p.segment.map (·.without w)
    metric := p.metric.without w
    userKey := p.userKey.map w.text }

end

namespace Script

variable (w : Wording)

/-! ## Scripts without wording -/

/-- The token without its wording. -/
def Token.without : Token → Token
  | str s => str (w.text s)
  | t => t

@[simp]
theorem Token.without_mark (m : Mark) : (mark m).without w = mark m := rfl

@[simp]
theorem Token.without_ident (name : String) : (ident name).without w = ident name := rfl

@[simp]
theorem Token.without_number (x : Float) : (number x).without w = number x := rfl

@[simp]
theorem Token.without_str (s : String) : (str s).without w = str (w.text s) := rfl

@[simp]
theorem Token.without_raw (s : String) : (raw s).without w = raw s := rfl

/-- The content without its wording. -/
def Content.without : Content → Content
  | blank => blank
  | comment s => comment (w.name s)
  | code ts => code (ts.map (Token.without w))

/-- The line without its wording. -/
def Line.without (l : Line) : Line := { l with content := l.content.without w }

/-- The lines without their wording. -/
def without (ls : List Line) : List Line := ls.map (Line.without w)

@[simp]
theorem without_nil : without w [] = [] := rfl

@[simp]
theorem without_cons (l : Line) (ls : List Line) :
    without w (l :: ls) = l.without w :: without w ls := rfl

@[simp]
theorem without_append (ls ms : List Line) :
    without w (ls ++ ms) = without w ls ++ without w ms := List.map_append

@[simp]
theorem without_flatMap {α : Type} (f : α → List Line) (as : List α) :
    without w (as.flatMap f) = as.flatMap fun a => without w (f a) := List.map_flatMap

@[simp]
theorem without_nest (ls : List Line) : without w (nest ls) = nest (without w ls) := by
  simp [without, nest, Line.without, Function.comp_def]

@[simp]
theorem without_blank : blank.without w = blank := rfl

@[simp]
theorem without_comment (s : String) : (comment s).without w = comment (w.name s) := rfl

@[simp]
theorem without_code (ts : List Token) :
    (code ts).without w = code (ts.map (Token.without w)) := rfl

@[simp]
theorem without_codeText (s : String) : (codeText s).without w = codeText s := rfl

@[simp]
theorem without_block (opening : List Token) (body : List Line) (closing : String) :
    without w (block opening body closing) =
      block (opening.map (Token.without w)) (without w body) closing := by
  simp [block]

@[simp]
theorem without_braceBlock (opening : List Token) (body : List Line) (after : String) :
    without w (braceBlock opening body after) =
      braceBlock (opening.map (Token.without w)) (without w body) after := by
  simp [braceBlock]

/-! ## Expressions -/

namespace Expr

/-- The tokens of an expression without their wording. -/
def bare (e : Expr) : List Token := e.tokens.map (Token.without w)

@[simp]
theorem bare_str (s : String) : (str s).bare w = [.str (w.text s)] := rfl

@[simp]
theorem bare_member (e : Expr) (name : String) :
    (member e name).bare w = e.bare w ++ [.mark .dot, .ident name] := by
  simp [bare, tokens]

@[simp]
theorem bare_binary (op : BinaryOp) (l r : Expr) :
    (binary op l r).bare w =
      l.bare w ++ .mark .space :: .mark op.mark :: .mark .space :: r.bare w := by
  simp [bare, tokens]

@[simp]
theorem bare_not (e : Expr) : e.not.bare w = .mark .not :: e.bare w := by
  simp [bare, tokens]

@[simp]
theorem bare_paren (e : Expr) : e.paren.bare w = .mark .lparen :: e.bare w ++ [.mark .rparen] := by
  simp [bare, tokens]

@[simp]
theorem bare_call (e : Expr) (args : List Expr) :
    (call e args).bare w =
      e.bare w ++ .mark .lparen :: (listTokens args).map (Token.without w) ++ [.mark .rparen] := by
  simp [bare, tokens]

@[simp]
theorem bare_array (items : List Expr) :
    (array items).bare w =
      .mark .lbracket :: (listTokens items).map (Token.without w) ++ [.mark .rbracket] := by
  simp [bare, tokens]

theorem tokens_foldl_index (path : List String) (e : Expr) :
    (path.foldl (fun e name => .index e (.str name)) e).tokens =
      e.tokens ++ path.flatMap fun name => [.mark .lbracket, .str name, .mark .rbracket] := by
  induction path generalizing e with
  | nil => simp
  | cons name path ih => simp [ih, tokens]

theorem tokens_foldl_and (es : List Expr) (e : Expr) :
    (es.foldl (.binary .and) e).tokens =
      e.tokens ++ es.flatMap fun e => .mark .space :: .mark .and :: .mark .space :: e.tokens := by
  induction es generalizing e with
  | nil => simp
  | cons e' es ih => simp [ih, tokens, BinaryOp.mark]

@[simp]
theorem bare_property (path : List String) :
    (property (path.map w.text)).bare w = (property path).bare w := by
  simp [bare, property, tokens_foldl_index, List.flatMap_map, List.map_flatMap]

theorem bare_conj_cons (e : Expr) (es : List Expr) :
    (conj (e :: es)).bare w =
      e.bare w ++
        (es.map (bare w)).flatMap fun ts => .mark .space :: .mark .and :: .mark .space :: ts := by
  simp [conj, bare, tokens_foldl_and, List.map_flatMap, List.flatMap_map]

theorem bare_conj {es es' : List Expr} (h : es.map (bare w) = es'.map (bare w)) :
    (conj es).bare w = (conj es').bare w := by
  cases es with
  | nil =>
    cases es' with
    | nil => rfl
    | cons e' es' => exact nomatch h
  | cons e es =>
    cases es' with
    | nil => exact nomatch h
    | cons e' es' =>
      rw [List.map_cons, List.map_cons] at h
      obtain ⟨he, hes⟩ := List.cons.inj h
      rw [bare_conj_cons, bare_conj_cons, he, hes]

@[simp]
theorem map_tokens (e : Expr) : e.tokens.map (Token.without w) = e.bare w := rfl

@[simp]
theorem map_listTokens_str {α : Type} (f : α → String) (as : List α) :
    (listTokens (as.map fun a => str (w.text (f a)))).map (Token.without w) =
      (listTokens (as.map fun a => str (f a))).map (Token.without w) := by
  induction as with
  | nil => rfl
  | cons a as ih =>
    cases as with
    | nil => simp [listTokens]
    | cons b as => simpa [listTokens] using ih

end Expr

theorem bare_conditionExpr (t : ConditionTest) :
    (conditionExpr (t.without w)).bare w = (conditionExpr t).bare w := by
  obtain ⟨path, op, value, pattern⟩ := t
  cases op <;>
    simp [ConditionTest.without, ConditionOp.comparesText, conditionExpr, matchExpr,
      Expr.listTokens, ConditionTest.numericValue]

theorem bare_nameExpr (names : List String) :
    (nameExpr (names.map w.text)).bare w = (nameExpr names).bare w := by
  match names with
  | [] => rfl
  | [name] => simp [nameExpr]
  | name :: name' :: names =>
    have hnames := Expr.map_listTokens_str w id (name :: name' :: names)
    simpa [nameExpr, Function.comp_def] using hnames

theorem bare_conditions (ts : List ConditionTest) :
    ((ts.map (·.without w)).map conditionExpr).map (Expr.bare w) =
      (ts.map conditionExpr).map (Expr.bare w) := by
  simp [bare_conditionExpr]

@[simp]
theorem bare_eventPredicateExpr (p : EventPredicate) :
    (eventPredicateExpr (p.without w)).bare w = (eventPredicateExpr p).bare w := by
  refine Expr.bare_conj w ?_
  rw [List.map_cons, List.map_cons]
  exact congrArg₂ List.cons (bare_nameExpr w p.names) (bare_conditions w p.conditions)

@[simp]
theorem bare_segmentExpr (p : SegmentPredicate) :
    (segmentExpr (p.without w)).bare w = (segmentExpr p).bare w :=
  Expr.bare_conj w (bare_conditions w p.conditions)

@[simp]
theorem bare_exposureExpr (p : ExposurePredicate) :
    (exposureExpr (p.without w)).bare w = (exposureExpr p).bare w := by
  refine Expr.bare_conj w ?_
  simp [ExposurePredicate.without]

@[simp]
theorem bare_valueExpr (v : ValueExpr) :
    (valueExpr (v.without w)).bare w = (valueExpr v).bare w := by
  cases v with
  | property path => exact Expr.bare_property w path
  | _ => rfl

/-! ## The reducer -/

@[simp]
theorem hasEarlyStart_without (p : ExperimentPlan) :
    (p.without w).hasEarlyStart = p.hasEarlyStart := by
  simp [ExperimentPlan.hasEarlyStart, MetricStep.isEarlyStart, Function.comp_def]

@[simp]
theorem indexed_without (p : ExperimentPlan) :
    indexed (p.without w) = (indexed p).map fun m => (m.1, m.2.without w) := by
  simp [indexed, List.zip_map_right]

@[simp]
theorem without_pushLine (list : Expr) (v : ValueExpr) :
    (pushLine list (v.without w)).without w = (pushLine list v).without w := by
  simp [pushLine, Expr.listTokens]

@[simp]
theorem bare_checkExpr (p : ExperimentPlan) (c : Check) :
    (c.expr (p.without w)).bare w = (c.expr p).bare w := by
  cases c with
  | otherVariation => simp [Check.expr]
  | captures i => simp [Check.expr, Function.comp_def]
  | _ => rfl

@[simp]
theorem without_actionLine (p : ExperimentPlan) (a : Action) :
    (a.line (p.without w)).without w = (a.line p).without w := by
  cases a with
  | takeVariation => simp [Action.line, assign]
  | takeDimension => cases hd : p.dimension <;> simp [Action.line, assign, hd]
  | push i => cases hm : p.metrics[i]? <;> simp [Action.line, hm]
  | _ => rfl

theorem stmtsLines_append (p : ExperimentPlan) (ss ts : List Stmt) :
    stmtsLines p (ss ++ ts) = stmtsLines p ss ++ stmtsLines p ts := by
  induction ss with
  | nil => rfl
  | cons s ss ih => rw [List.cons_append, stmtsLines, stmtsLines, ih, List.append_assoc]

theorem stmtsLines_flatMap {α : Type} (p : ExperimentPlan) (f : α → List Stmt) (as : List α) :
    stmtsLines p (as.flatMap f) = as.flatMap fun a => stmtsLines p (f a) := by
  induction as with
  | nil => rfl
  | cons a as ih => rw [List.flatMap_cons, stmtsLines_append, ih, List.flatMap_cons]

mutual

/-- How a statement is written depends on the wording of the plan only in what is left out. -/
theorem without_stmtLines (p : ExperimentPlan) :
    ∀ s : Stmt, without w (s.lines (p.without w)) = without w (s.lines p)
  | .comment s => by simp [Stmt.lines]
  | .act a => by simp [Stmt.lines]
  | .when c body => by simp [Stmt.lines, without_stmtsLines p body]
  | .replay body => by simp [Stmt.lines, without_stmtsLines p body]

theorem without_stmtsLines (p : ExperimentPlan) :
    ∀ ss : List Stmt, without w (stmtsLines (p.without w) ss) = without w (stmtsLines p ss)
  | [] => rfl
  | s :: ss => by simp [stmtsLines, without_stmtLines p s, without_stmtsLines p ss]

end

@[simp]
theorem name_metricComment (m : MetricStep) :
    w.name (metricComment (m.without w)) = w.name (metricComment m) :=
  w.name_append_name "Metric - " m.name

@[simp]
theorem without_capture (p : ExperimentPlan) (m : Nat × MetricStep) :
    without w (stmtsLines p (capture (m.1, m.2.without w))) =
      without w (stmtsLines p (capture m)) := by
  simp [capture, stmtsLines, Stmt.lines]

@[simp]
theorem queueIfEarly_without (p : ExperimentPlan) :
    queueIfEarly (p.without w) = queueIfEarly p := by
  simp [queueIfEarly]

@[simp]
theorem without_replayQueue (p : ExperimentPlan) :
    without w (stmtsLines p (replayQueue (p.without w))) =
      without w (stmtsLines p (replayQueue p)) := by
  have hfilter : (indexed (p.without w)).filter (·.2.isEarlyStart) =
      ((indexed p).filter (·.2.isEarlyStart)).map fun m => (m.1, m.2.without w) := by
    -- whether a metric counts early is no matter of its wording
    rw [indexed_without, List.filter_map]
    rfl
  unfold replayQueue
  rw [hfilter, hasEarlyStart_without]
  split
  · simp [stmtsLines, Stmt.lines, stmtsLines_flatMap, List.flatMap_map]
  · rfl

@[simp]
theorem without_activation (p : ExperimentPlan) :
    without w (stmtsLines p (activation (p.without w))) =
      without w (stmtsLines p (activation p)) := by
  simp [activation, stmtsLines_append, stmtsLines]

@[simp]
theorem without_firstExposure (p : ExperimentPlan) :
    without w (stmtsLines p (firstExposure (p.without w))) =
      without w (stmtsLines p (firstExposure p)) := by
  cases h : p.activation.isNone <;> simp [firstExposure, stmtsLines_append, stmtsLines, h]

@[simp]
theorem without_awaitActivation (p : ExperimentPlan) :
    without w (stmtsLines p (awaitActivation (p.without w))) =
      without w (stmtsLines p (awaitActivation p)) := by
  cases h : p.activation <;>
    simp [awaitActivation, stmtsLines, Stmt.lines, stmtsLines_append, h]

/-- The loop of a plan without its wording has the same statements with other comments. -/
theorem without_loopBody (p : ExperimentPlan) :
    without w (stmtsLines (p.without w) (loopBody (p.without w))) =
      without w (stmtsLines p (loopBody p)) := by
  rw [without_stmtsLines]
  simp [loopBody, stmtsLines, Stmt.lines, stmtsLines_append, stmtsLines_flatMap, List.flatMap_map]

theorem initialState_without (p : ExperimentPlan) :
    initialState (p.without w) = initialState p := by
  simp [initialState, Function.comp_def]

@[simp]
theorem without_reducerLines (p : ExperimentPlan) :
    without w (reducerLines (p.without w)) = without w (reducerLines p) := by
  simp [reducerLines, initialState_without, without_loopBody]

/-! ## Queries -/

@[simp]
theorem without_predicateLines (remark name : String) (e : Expr) :
    without w (predicateLines remark name e) =
      comment (w.name remark) ::
        functionLines (name ++ "(event)") [code (.raw "return " :: e.bare w ++ [.raw ";"])] ++
        [blank] := by
  simp [predicateLines, functionLines]

theorem without_predicates (p : ExperimentPlan) :
    without w (predicates (p.without w)) = without w (predicates p) := by
  cases h : p.activation <;> simp [predicates, h, List.flatMap_map]

theorem without_separated_selectorLine (selectors : List String) :
    without w (separated selectorLine (selectors.map w.text)) =
      without w (separated selectorLine selectors) := by
  induction selectors with
  | nil => rfl
  | cons s selectors ih =>
    cases selectors with
    | nil => simp [separated, selectorLine]
    | cons s' selectors => simpa [separated, selectorLine] using ih

theorem without_eventSource (start stop : Time.Instant) (selectors : List String) :
    without w (eventSource start stop (selectors.map w.text)) =
      without w (eventSource start stop selectors) := by
  simp [eventSource, without_separated_selectorLine]

theorem without_eventFilter (p : ExperimentPlan) :
    without w (eventFilter (p.without w)) = without w (eventFilter p) := by
  cases h : p.activation <;> simp [eventFilter, stage, keepLines, h, List.flatMap_map]

theorem without_userGroup (userKey : Option String) {body body' : List Line}
    (hbody : without w body = without w body') :
    without w (userGroup (userKey.map w.text) body) = without w (userGroup userKey body') := by
  cases userKey <;> simp [userGroup, hbody]

theorem without_userFilterLines (p : ExperimentPlan) :
    without w (userFilterLines (p.without w)) = without w (userFilterLines p) := by
  simp [userFilterLines, userFilter]

@[simp]
theorem without_aggregationLines (m : MetricStep) (dest : String) :
    without w (aggregationLines (m.without w) dest) = without w (aggregationLines m dest) := by
  simp [aggregationLines]

theorem without_aggregates (p : ExperimentPlan) :
    without w (aggregates (p.without w)) = without w (aggregates p) := by
  simp [aggregates, stage, List.flatMap_map]

theorem without_metricSummaries (ms : List (Nat × MetricStep)) :
    without w (metricSummaries (ms.map fun m => (m.1, m.2.without w))) =
      without w (metricSummaries ms) := by
  induction ms with
  | nil => rfl
  | cons m ms ih => simp [metricSummaries, ih]

theorem without_groups (p : ExperimentPlan) :
    without w (groups (p.without w)) = without w (groups p) := by
  simp [groups, without_metricSummaries, groupsRemark, groupKeys]

theorem without_rows (p : ExperimentPlan) :
    without w (rows (p.without w)) = without w (rows p) := by
  simp [rows, stage, textsVariable, dimensionLine, Function.comp_def]

/-- **The script of an experiment without its wording.** -/
theorem experimentLines_without (p : ExperimentPlan) :
    without w (experimentLines (p.without w)) = without w (experimentLines p) := by
  simp [experimentLines, without_predicates, without_eventFilter,
    without_userFilterLines, without_aggregates, without_groups, without_rows,
    without_eventSource, without_userGroup w _ (without_reducerLines w p)]

theorem without_valueEventFilter (p : MetricValuePlan) :
    without w (valueEventFilter (p.without w)) = without w (valueEventFilter p) := by
  cases h : p.segment <;> simp [valueEventFilter, stage, h]

theorem without_valueReducer (p : MetricValuePlan) :
    without w (valueReducer (p.without w)) = without w (valueReducer p) := by
  simp [valueReducer]

theorem valueReduction_without (p : MetricValuePlan) :
    valueReduction (p.without w) = valueReduction p := rfl

/-- **The script of a value query without its wording.** -/
theorem metricValueLines_without (p : MetricValuePlan) :
    without w (metricValueLines (p.without w)) = without w (metricValueLines p) := by
  have hremark : w.name (w.name p.name ++ " - Metric value (" ++ w.name p.metric.name ++ ")") =
      w.name (p.name ++ " - Metric value (" ++ p.metric.name ++ ")") := by
    cases w <;> rfl
  simp [metricValueLines, hremark, without_valueEventFilter, without_eventSource,
    valueReduction_without, without_userGroup w _ (without_valueReducer w p), stage,
    -Wording.name_append_name_append]

end Script

end ExperimentQuery
