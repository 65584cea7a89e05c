import ExperimentQuery.Proofs.Script.Grammar
import ExperimentQuery.Script.Tests

/-!
# The precedence of tests

The tests of a script write no parentheses around their operators. They need none: each is built so
that it fits the grammar, whatever number of conditions, names, path segments or bounds it has.

* `fits_property`, `fits_conj`: the parts that are folded together;
* `fits_condition`, `fits_eventPredicate`, `fits_exposure`, `fits_bound`: each test;
* **`parse_tests`**: the tokens of each test are read as the test that was built.
-/

namespace ExperimentQuery.Script

open Script.Expr (property conj eventName eventTime)

variable {n : Nat}

theorem fits_foldl_index (path : List String) {e : Expr} (he : e.Fits topLevel) :
    (path.foldl (fun e name => Expr.index e (.str name)) e).Fits topLevel := by
  induction path generalizing e with
  | nil => exact he
  | cons name path ih => exact ih (.index he (.str name))

theorem fits_property (path : List String) : (property path).Fits topLevel :=
  fits_foldl_index path (.member "properties" (.ident "event"))

theorem fits_foldl_and {es : List Expr} (hes : ∀ e ∈ es, e.Fits (BinaryOp.and.level + 1))
    {e : Expr} (he : e.Fits BinaryOp.and.level) :
    (es.foldl (Expr.binary .and) e).Fits BinaryOp.and.level := by
  induction es generalizing e with
  | nil => exact he
  | cons f es ih =>
    exact ih (fun e he => hes e (by simp [he])) (.binary (Nat.le_refl _) he (hes f (by simp)))

theorem fits_conj {es : List Expr} (hes : ∀ e ∈ es, e.Fits (BinaryOp.and.level + 1)) :
    (conj es).Fits BinaryOp.and.level := by
  cases es with
  | nil => exact .raw "true"
  | cons e es =>
    exact fits_foldl_and (fun f hf => hes f (by simp [hf])) ((hes e (by simp)).mono (by decide))

theorem fits_eventName : eventName.Fits n := .member "name" (.ident "event")

theorem fits_eventTime : eventTime.Fits n := .member "time" (.ident "event")

theorem fits_match {subject : Expr} (h : subject.Fits topLevel) (pattern : String) :
    (matchExpr subject pattern).Fits topLevel := by
  have hor : (Expr.binary .or subject (.str "")).Fits 0 :=
    .binary (Nat.le_refl _) (h.mono (by decide)) (.str "")
  exact .call (.member "match" (.paren hor)) (by simpa using .str pattern)

theorem fits_condition (t : ConditionTest) :
    (conditionExpr t).Fits (BinaryOp.and.level + 1) := by
  have hproperty : ∀ m ≤ topLevel, (property t.path).Fits m := fun m => (fits_property t.path).mono
  have hmatch := fits_match (fits_property t.path) t.value
  have hadd : ∀ m ≤ BinaryOp.add.level, (Expr.binary .add (property t.path) (.str "")).Fits m :=
    fun m hm => .binary hm (hproperty _ (by decide)) (.str "")
  unfold conditionExpr
  cases t.op with
  | eq => exact .binary (by decide) (hadd _ (by decide)) (.str t.value)
  | ne => exact .binary (by decide) (hadd _ (by decide)) (.str t.value)
  | matching => exact hmatch.mono (by decide)
  | notMatching => exact .not (by decide) (hmatch.mono (by decide))
  | gt => exact .binary (by decide) (hproperty _ (by decide)) (.number _)
  | ge => exact .binary (by decide) (hproperty _ (by decide)) (.number _)
  | lt => exact .binary (by decide) (hproperty _ (by decide)) (.number _)
  | le => exact .binary (by decide) (hproperty _ (by decide)) (.number _)

theorem fits_name (names : List String) : (nameExpr names).Fits (BinaryOp.and.level + 1) := by
  unfold nameExpr
  split
  · exact .binary (by decide) fits_eventName (.str _)
  · have hnames : ∀ a ∈ names.map Expr.str, a.Fits 0 := by
      simpa using fun name _ => Expr.Fits.str name
    exact .call (.member "includes" (.array hnames)) (by simpa using fits_eventName)

theorem fits_eventPredicate (p : EventPredicate) :
    (eventPredicateExpr p).Fits BinaryOp.and.level := by
  refine fits_conj (List.forall_mem_cons.2 ⟨fits_name p.names, ?_⟩)
  simpa using fun t _ => fits_condition t

theorem fits_exposure (p : ExposurePredicate) : (exposureExpr p).Fits BinaryOp.and.level := by
  refine fits_conj ?_
  simp only [List.forall_mem_cons, List.not_mem_nil, false_implies, implies_true, and_true]
  exact ⟨.binary (by decide) fits_eventName (.str _),
    .binary (by decide) ((fits_property _).mono (by decide)) (.str _),
    .binary (by decide) fits_eventTime (.number _),
    .binary (by decide) fits_eventTime (.number _)⟩

theorem fits_bound (start : String) (b : WindowBound) :
    (boundExpr start b).Fits (BinaryOp.and.level + 1) := by
  cases b with
  | elapsedAtLeast ms =>
    exact .binary (by decide) (.binary (by decide) fits_eventTime (.raw start)) (.number _)
  | elapsedBelow ms =>
    exact .binary (by decide) (.binary (by decide) fits_eventTime (.raw start)) (.number _)
  | lookback stop length =>
    exact .binary (by decide) (.binary (by decide) (.number _) fits_eventTime) (.number _)

/-- **The tokens of each test are read as the test that was built**: conditions, event predicates,
exposures and windows with any bound at all. -/
theorem parse_tests :
    (∀ t : ConditionTest, parse? (conditionExpr t).tokens = some (conditionExpr t)) ∧
    (∀ p : EventPredicate, parse? (eventPredicateExpr p).tokens = some (eventPredicateExpr p)) ∧
    (∀ p : ExposurePredicate, parse? (exposureExpr p).tokens = some (exposureExpr p)) ∧
    ∀ (b : WindowBound) (bounds : List WindowBound) (start : String),
      ∃ e, windowExpr? (b :: bounds) start = some e ∧ parse? e.tokens = some e := by
  refine ⟨fun t => ?_, fun p => ?_, fun p => ?_, fun b bounds start => ⟨_, rfl, ?_⟩⟩
  · exact parse_tokens_iff.2 ((fits_condition t).mono (Nat.zero_le _))
  · exact parse_tokens_iff.2 ((fits_eventPredicate p).mono (Nat.zero_le _))
  · exact parse_tokens_iff.2 ((fits_exposure p).mono (Nat.zero_le _))
  · have hbounds : ∀ e ∈ (b :: bounds).map (boundExpr start), e.Fits (BinaryOp.and.level + 1) := by
      simpa using ⟨fits_bound start b, fun b _ => fits_bound start b⟩
    exact parse_tokens_iff.2 ((fits_conj hbounds).mono (Nat.zero_le _))

end ExperimentQuery.Script
