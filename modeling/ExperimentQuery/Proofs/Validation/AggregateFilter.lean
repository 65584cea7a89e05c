import ExperimentQuery.Plan.Basic
import ExperimentQuery.Proofs.Plan.Comparisons
import ExperimentQuery.Validation.Basic

/-!
# Aggregate filters of accepted metrics

A metric that the checks accept and that has an aggregate filter has both halves of it, is of a
kind that has conversions, and its text can be read. The plan takes over the comparisons of the
text, if there are any: a text of white space and commas is accepted and stands for no filter.

* `Metric.aggregateFilter_of_check`: what the checks establish;
* **`MetricStep.aggregateFilter_of_check`**: the filter in the plan of the metric;
* `MetricStep.aggregateFilter_blank`: an accepted filter without effect.
-/

namespace ExperimentQuery

theorem require_eq_ok {ε : Type} {holds : Bool} {e : ε} : require holds e = .ok () ↔ holds := by
  cases holds <;> simp [require]

theorem exists_of_isGiven {s : Option String} (h : isGiven s) : ∃ text, s = some text := by
  cases s with
  | none => exact absurd h Bool.false_ne_true
  | some text => exact ⟨text, rfl⟩

/-- What the checks of an aggregate filter establish. -/
theorem ColumnRef.checkAggregateFilter_eq_ok {c : ColumnRef} {kind : MetricKind} {table : FactTable}
    (h : c.checkAggregateFilter kind table = .ok ()) (hfilter : c.hasAggregateFilter) :
    kind.isBinomial ∧ ∃ column filter cs, c.aggregateFilterColumn = some column ∧
      c.aggregateFilter = some filter ∧ parseComparisons filter = .ok cs := by
  rw [checkAggregateFilter, if_pos hfilter] at h
  obtain ⟨_, hboth, h⟩ := bind_eq_ok.mp h
  obtain ⟨_, hkind, h⟩ := bind_eq_ok.mp h
  obtain ⟨_, hnumeric, h⟩ := bind_eq_ok.mp h
  have hsame : isGiven c.aggregateFilter = isGiven c.aggregateFilterColumn :=
    beq_iff_eq.mp (require_eq_ok.mp hboth)
  have hgiven : isGiven c.aggregateFilter := by
    rw [hasAggregateFilter, ← hsame, Bool.or_self] at hfilter
    exact hfilter
  obtain ⟨filter, hf⟩ := exists_of_isGiven hgiven
  obtain ⟨column, hc⟩ := exists_of_isGiven (hsame ▸ hgiven)
  refine ⟨require_eq_ok.mp hkind, column, filter, ?_⟩
  rw [hf, Option.getD_some] at h
  cases hparse : parseComparisons filter with
  | error e => simp [hparse] at h
  | ok cs => exact ⟨cs, hc, hf, rfl⟩

theorem Metric.checkAggregateFilter_of_check {m : Metric} {tables : FactTables}
    {features : List PremiumFeature} (h : m.check tables features = .ok ()) :
    ∃ table, m.numerator.checkAggregateFilter m.kind table = .ok () := by
  obtain ⟨table, _, h⟩ := bind_eq_ok.mp h
  obtain ⟨_, _, h⟩ := bind_eq_ok.mp h
  obtain ⟨_, hfilter, _⟩ := bind_eq_ok.mp h
  exact ⟨table, hfilter⟩

/-- **The aggregate filter of an accepted metric** has both halves and a text that can be read. The
plan, whatever the end of the experiment, has the comparisons of the text in order, unless there
are none, which is the case just for the texts of white space and commas. -/
theorem MetricStep.aggregateFilter_of_check {m : Metric} {tables : FactTables}
    {features : List PremiumFeature} (hcheck : m.check tables features = .ok ())
    (hfilter : m.numerator.hasAggregateFilter) :
    ∃ column filter cs, m.numerator.aggregateFilterColumn = some column ∧
      m.numerator.aggregateFilter = some filter ∧ parseComparisons filter = .ok cs ∧
      (∀ stop, (MetricStep.ofMetric m stop).aggregateFilter =
        if cs.isEmpty then none else some ⟨.ofName column, cs⟩) ∧
      (cs = [] ↔ ∀ c ∈ filter.toList, Unicode.isBlank c ∨ c = ',') := by
  obtain ⟨table, htable⟩ := Metric.checkAggregateFilter_of_check hcheck
  obtain ⟨hkind, column, filter, cs, hc, hf, hparse⟩ :=
    ColumnRef.checkAggregateFilter_eq_ok htable hfilter
  refine ⟨column, filter, cs, hc, hf, hparse, fun stop => ?_, parseComparisons_eq_nil_iff hparse⟩
  have hof := AggregateFilter.ofParts?_of_parseComparisons hparse column
  simp only [ofMetric, Metric.aggregateFilter?, hkind, hc, hf, if_true]
  exact hof

/-- A table of orders. -/
def ordersTable : FactTable := { id := "orders", datasource := "warehouse" }

/-- A metric of the users with a number of orders that passes a filter. -/
def ordersMetric (filter : String) : Metric :=
  { id := "fact__orders"
    name := "Orders"
    kind := .proportion
    events := "order"
    numerator :=
      { factTable := "orders"
        aggregateFilter := some filter
        aggregateFilterColumn := some "$$count" } }

theorem MetricStep.aggregateFilter_of_check_orders :
    (ordersMetric ">=2, <10").check [ordersTable] [] = .ok () ∧
      (ordersMetric ">=2, <10").numerator.hasAggregateFilter ∧
      ∃ column filter cs,
        (ordersMetric ">=2, <10").numerator.aggregateFilterColumn = some column ∧
        (ordersMetric ">=2, <10").numerator.aggregateFilter = some filter ∧
        parseComparisons filter = .ok cs ∧
        (∀ stop, (MetricStep.ofMetric (ordersMetric ">=2, <10") stop).aggregateFilter =
          if cs.isEmpty then none else some ⟨.ofName column, cs⟩) ∧
        (cs = [] ↔ ∀ c ∈ filter.toList, Unicode.isBlank c ∨ c = ',') := by
  have hcheck : (ordersMetric ">=2, <10").check [ordersTable] [] = .ok () := rfl
  have hfilter : (ordersMetric ">=2, <10").numerator.hasAggregateFilter := rfl
  exact ⟨hcheck, hfilter, MetricStep.aggregateFilter_of_check hcheck hfilter⟩

/-- A blank filter is accepted although it is none once white space is left out, and the metric then
counts every user with an order. -/
theorem MetricStep.aggregateFilter_blank :
    (ordersMetric " ").check [ordersTable] [] = .ok () ∧
      (ordersMetric " ").numerator.hasAggregateFilter ∧
      ∀ stop, (MetricStep.ofMetric (ordersMetric " ") stop).aggregateFilter = none := by
  refine ⟨rfl, rfl, fun stop => ?_⟩
  rfl

end ExperimentQuery
