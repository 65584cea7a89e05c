import ExperimentQuery.Proofs.Metric.Document

/-!
# Upgrading once and for all

A metric is read back from its document in both ways: as a metric, and as a stored revision that is
upgraded. What a revision upgrades to is a metric, so to write it and upgrade it again changes
nothing. Documents are trees here, whose numbers are doubles. Text is another matter: a reader of
texts that does not round to the nearest double may be one unit off in the last place.

* `Metric.KeepsDates`, `MetricRevision.KeepsDates`: the dates are read back from their texts;
* `MetricRevision.FiniteNumbers`: the numbers of a revision, kept by `MetricRevision.upgrade`;
* **`Metric.writing_loses_nothing`**: both ways, and the second upgrade;
* **`Metric.ofStored?_of_ofStored?`**: the dates of a metric that was read need no assumption.
-/

namespace ExperimentQuery

open Json

/-! ## Dates -/

/-- The dates of a metric are read back from their texts. -/
structure Metric.KeepsDates (m : Metric) : Prop where
  dateCreated : ∀ t ∈ m.dateCreated, Time.Instant.read? t.rfc3339 = some t
  dateUpdated : ∀ t ∈ m.dateUpdated, Time.Instant.read? t.rfc3339 = some t

/-- The dates of a stored revision are read back from their texts. -/
structure MetricRevision.KeepsDates (d : MetricRevision) : Prop where
  dateCreated : ∀ t ∈ d.dateCreated, Time.Instant.read? t.rfc3339 = some t
  dateUpdated : ∀ t ∈ d.dateUpdated, Time.Instant.read? t.rfc3339 = some t

theorem MetricRevision.KeepsDates.upgrade {d : MetricRevision} (h : d.KeepsDates) :
    d.upgrade.KeepsDates :=
  ⟨h.dateCreated, h.dateUpdated⟩

theorem read?_rfc3339_of_optional {r : Record} {name : String} {o : Option Time.Instant}
    (h : r.optional name Time.Instant.ofJson? = some o) :
    ∀ t ∈ o, Time.Instant.read? t.rfc3339 = some t := by
  intro t ht
  cases ht
  cases hw : r.fields.lookup name with
  | none =>
    rw [Record.optional_of_none hw] at h
    exact nomatch h
  | some w =>
    rw [Record.optional_of_some hw] at h
    have hnull : w ≠ .null := by
      rintro rfl
      exact nomatch h
    obtain ⟨t', hread, heq⟩ := exists_of_nullable? hnull h
    cases heq
    obtain ⟨s, -, hs⟩ := Option.bind_eq_some_iff.mp hread
    exact Time.Instant.read?_rfc3339 (Time.Instant.valid_of_read? hs)

theorem MetricRevision.keepsDates_of_ofJson? {v : Json} {d : MetricRevision}
    (h : MetricRevision.ofJson? v = some d) : d.KeepsDates := by
  obtain ⟨r, -, h⟩ := Option.bind_eq_some_iff.mp h
  iterate 32 obtain ⟨_, -, h⟩ := Option.bind_eq_some_iff.mp h
  obtain ⟨created, hcreated, h⟩ := Option.bind_eq_some_iff.mp h
  obtain ⟨updated, hupdated, h⟩ := Option.bind_eq_some_iff.mp h
  cases h
  exact ⟨read?_rfc3339_of_optional hcreated, read?_rfc3339_of_optional hupdated⟩

theorem Metric.FiniteNumbers.writable {m : Metric} (h : m.FiniteNumbers) (hdates : m.KeepsDates) :
    m.Writable :=
  { numbers := h
    dateCreated := fun t ht => Time.Instant.read?_rfc3339_iff.mp (hdates.dateCreated t ht)
    dateUpdated := fun t ht => Time.Instant.read?_rfc3339_iff.mp (hdates.dateUpdated t ht) }

/-! ## Numbers -/

/-- A number that may be missing is finite. -/
def IsFiniteOption (o : Option Float) : Prop := ∀ x ∈ o, x.isFinite

theorem IsFiniteOption.getD {o : Option Float} {fallback : Float} (h : IsFiniteOption o)
    (hfallback : fallback.isFinite) : (o.getD fallback).isFinite := by
  cases o with
  | none => exact hfallback
  | some x => exact h x rfl

theorem IsFiniteOption.filter {o : Option Float} {p : Float → Bool} (h : IsFiniteOption o) :
    IsFiniteOption (o.filter p) :=
  fun x hx => h x (Option.mem_filter_iff.mp hx).1

/-- The numbers of stored window settings are finite. -/
structure WindowRevision.FiniteNumbers (w : WindowRevision) : Prop where
  delayHours : IsFiniteOption w.delayHours
  delayValue : IsFiniteOption w.delayValue
  windowValue : IsFiniteOption w.windowValue

/-- The numbers of a stored revision are finite, and the one that is whole fits 32 bits. -/
structure MetricRevision.FiniteNumbers (d : MetricRevision) : Prop where
  window : ∀ w ∈ d.window, w.FiniteNumbers
  capping : ∀ c ∈ d.capping, c.value.isFinite
  prior : ∀ p ∈ d.prior, p.mean.isFinite ∧ p.stddev.isFinite
  quantile : ∀ q ∈ d.quantile, q.quantile.isFinite
  conversionWindowValue : IsFiniteOption d.conversionWindowValue
  conversionDelayHours : IsFiniteOption d.conversionDelayHours
  capValue : IsFiniteOption d.capValue
  winRisk : IsFiniteOption d.winRisk
  loseRisk : IsFiniteOption d.loseRisk
  minPercentChange : IsFiniteOption d.minPercentChange
  maxPercentChange : IsFiniteOption d.maxPercentChange
  minSampleSize : IsFiniteOption d.minSampleSize
  regressionDays : d.regressionDays < Nat.pow 2 32

namespace MetricRevision.FiniteNumbers

variable {d : MetricRevision}

/-- The window is finite, whether it comes from the settings, the flat fields or the defaults. -/
theorem upgradeWindow (h : d.FiniteNumbers) :
    d.upgradeWindow.delayValue.isFinite ∧ d.upgradeWindow.windowValue.isFinite := by
  unfold MetricRevision.upgradeWindow
  split
  next w hw =>
    obtain ⟨hhours, hdelay, hlength⟩ := h.window w hw
    exact ⟨hdelay.getD (hhours.getD (by decide)), hlength.getD (by decide)⟩
  next =>
    exact ⟨h.conversionDelayHours.getD (by decide),
      h.conversionWindowValue.filter.getD (by decide)⟩

theorem upgradeCapping (h : d.FiniteNumbers) : d.upgradeCapping.value.isFinite := by
  unfold MetricRevision.upgradeCapping
  cases hc : d.capping with
  | none => exact h.capValue.getD (by decide)
  | some c => exact h.capping c hc

theorem upgradePrior (h : d.FiniteNumbers) :
    (d.prior.getD {}).mean.isFinite ∧ (d.prior.getD {}).stddev.isFinite := by
  cases hp : d.prior with
  | none => decide
  | some p => exact h.prior p hp

/-- **A revision with finite numbers upgrades to a metric with finite numbers.** -/
theorem upgrade (h : d.FiniteNumbers) : d.upgrade.FiniteNumbers :=
  { delayValue := h.upgradeWindow.1
    windowValue := h.upgradeWindow.2
    capValue := h.upgradeCapping
    priorMean := h.upgradePrior.1
    priorStddev := h.upgradePrior.2
    quantile := h.quantile
    winRisk := h.winRisk.getD (by decide)
    loseRisk := h.loseRisk.getD (by decide)
    minPercentChange := h.minPercentChange.getD (by decide)
    maxPercentChange := h.maxPercentChange.getD (by decide)
    minSampleSize := h.minSampleSize.getD (by decide)
    regressionDays := h.regressionDays }

end MetricRevision.FiniteNumbers

/-! ## Documents -/

/-- **Writing a metric loses nothing**: a metric with finite numbers is read back from its document,
as a metric and as a stored revision. So the document of what a revision upgrades to upgrades to the
same again. Nothing is said of documents that were texts in between. -/
theorem Metric.writing_loses_nothing :
    (∀ m : Metric, m.FiniteNumbers → m.KeepsDates →
      ReadsAs Metric.ofJson? m.toJson m ∧ ReadsAs Metric.ofStored? m.toJson m) ∧
    ∀ d : MetricRevision, d.FiniteNumbers → d.KeepsDates →
      ReadsAs Metric.ofStored? d.upgrade.toJson d.upgrade := by
  have hmetric : ∀ m : Metric, m.FiniteNumbers → m.KeepsDates →
      ReadsAs Metric.ofJson? m.toJson m ∧ ReadsAs Metric.ofStored? m.toJson m := by
    intro m hm hdates
    have hwritable := hm.writable hdates
    exact ⟨Metric.readsAs_toJson hwritable, Metric.readsAs_ofStored? hwritable⟩
  refine ⟨hmetric, fun d hd hdates => ?_⟩
  exact (hmetric d.upgrade hd.upgrade hdates.upgrade).2

/-- A document of the first revision, with flat fields in place of settings. -/
def checkoutDocument : Json :=
  .obj [("id", .str "fact__checkout"), ("name", .str "Checkout"), ("datasource", .str "ds_1"),
    ("metricType", .str "binomial"), ("events", .str "checkout OR purchase"),
    ("numerator", .obj [("factTableId", .str "ft_events")]), ("hasConversionWindow", .bool true),
    ("conversionWindowValue", .float 2.0), ("conversionWindowUnit", .str "days"),
    ("conversionDelayHours", .float 1.0), ("capping", .str "absolute"), ("capValue", .float 5.0),
    ("winRisk", .float 0.01), ("dateCreated", .str "2023-11-02T10:00:00Z")]

theorem Metric.writing_loses_nothing_checkout :
    ∃ d, MetricRevision.ofJson? checkoutDocument = some d ∧ d.FiniteNumbers ∧ d.KeepsDates ∧
      ReadsAs Metric.ofJson? d.upgrade.toJson d.upgrade ∧
      ReadsAs Metric.ofStored? d.upgrade.toJson d.upgrade := by
  obtain ⟨d, hd⟩ : ∃ d, MetricRevision.ofJson? checkoutDocument = some d := ⟨_, rfl⟩
  have hdates : d.KeepsDates := MetricRevision.keepsDates_of_ofJson? hd
  have hnumbers : d.FiniteNumbers := by
    cases hd
    constructor <;> first | decide | exact fun x hx => by cases hx; decide | nofun
  refine ⟨d, hd, hnumbers, hdates, ?_, ?_⟩
  · exact (Metric.writing_loses_nothing.1 d.upgrade hnumbers.upgrade hdates.upgrade).1
  · exact Metric.writing_loses_nothing.2 d hnumbers hdates

/-- **A metric that was read from a stored document is read from its own document**, if its numbers
are finite. -/
theorem Metric.ofStored?_of_ofStored? {v : Json} {m : Metric} (h : Metric.ofStored? v = some m)
    (hm : m.FiniteNumbers) : ReadsAs Metric.ofStored? m.toJson m := by
  obtain ⟨d, hd, rfl⟩ := Option.map_eq_some_iff.mp h
  have hdates := MetricRevision.keepsDates_of_ofJson? hd
  exact Metric.readsAs_ofStored? (hm.writable hdates.upgrade)

end ExperimentQuery
