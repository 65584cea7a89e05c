import ExperimentQuery.Proofs.Metric.Revision
import ExperimentQuery.Proofs.Time.Text

/-!
# Metrics and their documents

What is written for a metric is read back as the metric, and so is its canonical form. The same
holds of the reader of stored revisions, as what is written is current. A number that is not finite
is written as `null`, so this is said of metrics with finite numbers.

* `Metric.Writable`: the numbers and the dates of a metric have a text;
* `ColumnRef.readsAs_toJson`, …: the parts;
* **`Metric.readsAs_toJson`**, **`Metric.readsAs_ofStored?`**: the whole definition.
-/

namespace ExperimentQuery

open Json

/-! ## Names -/

theorem MetricKind.readsAs_toJson (k : MetricKind) : ReadsAs MetricKind.ofJson? k.toJson k := by
  cases k <;> exact readsAs_variant rfl

theorem ConditionOp.readsAs_toJson (op : ConditionOp) :
    ReadsAs ConditionOp.ofJson? op.toJson op := by
  cases op <;> exact readsAs_variant rfl

theorem Aggregation.readsAs_toJson (a : Aggregation) :
    ReadsAs Aggregation.ofJson? a.toJson a := by
  cases a <;> exact readsAs_variant rfl

theorem TimeUnit.readsAs_toJson (u : TimeUnit) : ReadsAs TimeUnit.ofJson? u.toJson u := by
  cases u <;> exact readsAs_variant rfl

theorem WindowKind.readsAs_toJson (k : WindowKind) : ReadsAs WindowKind.ofJson? k.toJson k := by
  cases k <;> exact readsAs_variant rfl

theorem CappingKind.readsAs_toJson (k : CappingKind) :
    ReadsAs CappingKind.ofJson? k.toJson k := by
  cases k <;> exact readsAs_variant rfl

theorem QuantileScope.readsAs_toJson (q : QuantileScope) :
    ReadsAs QuantileScope.ofJson? q.toJson q := by
  cases q <;> exact readsAs_variant rfl

theorem ManagedBy.readsAs_toJson (m : ManagedBy) : ReadsAs ManagedBy.ofJson? m.toJson m := by
  cases m <;> exact readsAs_variant rfl

theorem Time.Instant.readsAs_toJson {t : Time.Instant} (h : t.Valid) :
    ReadsAs Time.Instant.ofJson? t.toJson t := by
  have hread : Time.Instant.ofJson? t.toJson = some t := by
    rw [Time.Instant.toJson, Time.Instant.ofJson?, string?, Option.bind_some,
      Time.Instant.read?_rfc3339 h]
  exact readsAs_of_canonical_eq rfl hread

/-! ## Parts -/

theorem ColumnRef.readsAs_toJson (c : ColumnRef) : ReadsAs ColumnRef.ofJson? c.toJson c := by
  intro v hv
  simp only [ColumnRef.toJson, List.append_assoc, List.cons_append] at hv
  obtain ⟨r, hr, h⟩ := exists_record_of_isForm
    ["factTableId", "column", "filters", "aggregateFilter", "aggregateFilterColumn"] hv (by decide)
    (.cons_cons _ (sublist_present (.cons_cons _ (sublist_present sublist_present_last))))
  have htexts : ∀ (o : Option String), ∀ s ∈ o, ReadsAs string? (.str s) s :=
    fun _ s _ => readsAs_str s
  refine Option.bind_eq_some_iff.mpr ⟨r, hr, ?_⟩
  refine h.bind_required (readsAs_str c.factTable) ?_
  refine h.bind_optional rfl (htexts c.column) ?_
  refine h.bind_withDefault (readsAs_strings c.filters) ?_
  refine h.bind_optional rfl (htexts c.aggregateFilter) ?_
  exact h.bind_optional rfl (htexts c.aggregateFilterColumn) rfl

theorem Condition.readsAs_toJson (c : Condition) : ReadsAs Condition.ofJson? c.toJson c := by
  intro v hv
  obtain ⟨r, hr, h⟩ := exists_record_of_isForm ["column", "operator", "value"] hv (by decide)
    (List.Sublist.refl _)
  refine Option.bind_eq_some_iff.mpr ⟨r, hr, ?_⟩
  refine h.bind_required (readsAs_str c.column) ?_
  refine h.bind_required c.op.readsAs_toJson ?_
  exact h.bind_required (readsAs_str c.value) rfl

theorem Condition.readsAs_list (cs : List Condition) :
    ReadsAs Condition.listOfJson? (.arr (cs.map Condition.toJson)) cs :=
  ReadsAs.list fun c _ => c.readsAs_toJson

theorem WindowSettings.readsAs_toJson {w : WindowSettings} (hdelay : w.delayValue.isFinite)
    (hlength : w.windowValue.isFinite) : ReadsAs WindowSettings.ofJson? w.toJson w := by
  intro v hv
  obtain ⟨r, hr, h⟩ := exists_record_of_isForm
    ["type", "delayValue", "delayUnit", "windowValue", "windowUnit"] hv (by decide)
    (List.Sublist.refl _)
  refine Option.bind_eq_some_iff.mpr ⟨r, hr, ?_⟩
  refine h.bind_withDefault w.kind.readsAs_toJson ?_
  refine h.bind_withDefault (readsAs_number hdelay) ?_
  refine h.bind_withDefault w.delayUnit.readsAs_toJson ?_
  refine h.bind_withDefault (readsAs_number hlength) ?_
  exact h.bind_withDefault w.windowUnit.readsAs_toJson rfl

theorem CappingSettings.readsAs_toJson {c : CappingSettings} (hvalue : c.value.isFinite) :
    ReadsAs CappingSettings.ofJson? c.toJson c := by
  intro v hv
  obtain ⟨r, hr, h⟩ := exists_record_of_isForm ["type", "value"] hv (by decide)
    (List.Sublist.refl _)
  refine Option.bind_eq_some_iff.mpr ⟨r, hr, ?_⟩
  refine h.bind_withDefault c.kind.readsAs_toJson ?_
  exact h.bind_withDefault (readsAs_number hvalue) rfl

theorem PriorSettings.readsAs_toJson {p : PriorSettings} (hmean : p.mean.isFinite)
    (hstddev : p.stddev.isFinite) : ReadsAs PriorSettings.ofJson? p.toJson p := by
  intro v hv
  obtain ⟨r, hr, h⟩ := exists_record_of_isForm ["override", "proper", "mean", "stddev"] hv
    (by decide) (List.Sublist.refl _)
  refine Option.bind_eq_some_iff.mpr ⟨r, hr, ?_⟩
  refine h.bind_required (readsAs_bool p.overridden) ?_
  refine h.bind_required (readsAs_bool p.proper) ?_
  refine h.bind_required (readsAs_number hmean) ?_
  exact h.bind_required (readsAs_number hstddev) rfl

theorem QuantileSettings.readsAs_toJson {q : QuantileSettings} (hquantile : q.quantile.isFinite) :
    ReadsAs QuantileSettings.ofJson? q.toJson q := by
  intro v hv
  obtain ⟨r, hr, h⟩ := exists_record_of_isForm ["type", "quantile", "ignoreZeros"] hv
    (by decide) (List.Sublist.refl _)
  refine Option.bind_eq_some_iff.mpr ⟨r, hr, ?_⟩
  refine h.bind_required q.scope.readsAs_toJson ?_
  refine h.bind_required (readsAs_number hquantile) ?_
  exact h.bind_withDefault (readsAs_bool q.ignoreZeros) rfl

/-! ## Definitions -/

/-- The numbers of a metric are finite, and the one that is whole fits 32 bits. -/
structure Metric.FiniteNumbers (m : Metric) : Prop where
  delayValue : m.window.delayValue.isFinite
  windowValue : m.window.windowValue.isFinite
  capValue : m.capping.value.isFinite
  priorMean : m.prior.mean.isFinite
  priorStddev : m.prior.stddev.isFinite
  quantile : ∀ q ∈ m.quantile, q.quantile.isFinite
  winRisk : m.winRisk.isFinite
  loseRisk : m.loseRisk.isFinite
  minPercentChange : m.minPercentChange.isFinite
  maxPercentChange : m.maxPercentChange.isFinite
  minSampleSize : m.minSampleSize.isFinite
  regressionDays : m.regressionDays < Nat.pow 2 32

theorem Metric.FiniteNumbers.relabelled {m : Metric} (h : m.FiniteNumbers) (id : String)
    (created updated : Option Time.Instant) :
    { m with id := id, dateCreated := created, dateUpdated := updated }.FiniteNumbers :=
  ⟨h.delayValue, h.windowValue, h.capValue, h.priorMean, h.priorStddev, h.quantile, h.winRisk,
    h.loseRisk, h.minPercentChange, h.maxPercentChange, h.minSampleSize, h.regressionDays⟩

/-- The metric can be written: its numbers are finite, and its dates have a text. -/
structure Metric.Writable (m : Metric) : Prop where
  numbers : m.FiniteNumbers
  dateCreated : ∀ t ∈ m.dateCreated, t.Valid
  dateUpdated : ∀ t ∈ m.dateUpdated, t.Valid

theorem Metric.sublist_fieldNames {m : Metric} {ms : List (String × Json)}
    (hms : m.toJson = .obj ms) : (ms.map (·.1)).Sublist Metric.fieldNames := by
  cases hms
  simp only [Metric.headMembers, List.append_assoc, List.cons_append, List.nil_append]
  -- a member that is always written stands for one name, one that may be missing for one or none
  iterate 10 refine .cons_cons _ ?_
  refine sublist_present (.cons_cons _ (sublist_present ?_))
  iterate 3 refine .cons_cons _ ?_
  refine sublist_present ?_
  iterate 9 refine .cons_cons _ ?_
  exact sublist_present sublist_present_last

/-- **A metric is read back from every form of what is written for it.** -/
theorem Metric.readsAs_toJson {m : Metric} (hm : m.Writable) :
    ReadsAs Metric.ofJson? m.toJson m := by
  intro v hv
  obtain ⟨r, hr, h⟩ := exists_record_of_isForm Metric.fieldNames hv Metric.nodup_fieldNames
    (Metric.sublist_fieldNames rfl)
  simp only [Metric.headMembers] at h
  have hn := hm.numbers
  refine Option.bind_eq_some_iff.mpr ⟨r, hr, ?_⟩
  refine h.bind_required (readsAs_str m.id) ?_
  refine h.bind_required (readsAs_str m.name) ?_
  refine h.bind_withDefault (readsAs_str m.description) ?_
  refine h.bind_withDefault (readsAs_str m.owner) ?_
  refine h.bind_required (readsAs_str m.datasource) ?_
  refine h.bind_withDefault (readsAs_strings m.projects) ?_
  refine h.bind_withDefault (readsAs_strings m.tags) ?_
  refine h.bind_required m.kind.readsAs_toJson ?_
  refine h.bind_required (readsAs_str m.events) ?_
  refine h.bind_required m.numerator.readsAs_toJson ?_
  refine h.bind_optional rfl (fun c (_ : c ∈ m.denominator) => c.readsAs_toJson) ?_
  refine h.bind_withDefault (Condition.readsAs_list m.conditions) ?_
  refine h.bind_optional rfl (fun a (_ : a ∈ m.aggregation) => a.readsAs_toJson) ?_
  refine h.bind_withDefault (WindowSettings.readsAs_toJson hn.delayValue hn.windowValue) ?_
  refine h.bind_withDefault (CappingSettings.readsAs_toJson hn.capValue) ?_
  refine h.bind_withDefault (PriorSettings.readsAs_toJson hn.priorMean hn.priorStddev) ?_
  refine h.bind_optional rfl
    (fun q hq => QuantileSettings.readsAs_toJson (hn.quantile q hq)) ?_
  refine h.bind_withDefault (readsAs_number hn.winRisk) ?_
  refine h.bind_withDefault (readsAs_number hn.loseRisk) ?_
  refine h.bind_withDefault (readsAs_number hn.minPercentChange) ?_
  refine h.bind_withDefault (readsAs_number hn.maxPercentChange) ?_
  refine h.bind_withDefault (readsAs_number hn.minSampleSize) ?_
  refine h.bind_withDefault (readsAs_bool m.regressionOverride) ?_
  refine h.bind_withDefault (readsAs_bool m.regressionEnabled) ?_
  refine h.bind_withDefault (readsAs_nat hn.regressionDays) ?_
  refine h.bind_withDefault m.managedBy.readsAs_toJson ?_
  refine h.bind_optional rfl
    (fun t ht => Time.Instant.readsAs_toJson (hm.dateCreated t ht)) ?_
  exact h.bind_optional rfl
    (fun t ht => Time.Instant.readsAs_toJson (hm.dateUpdated t ht)) rfl

/-! ## Stored definitions -/

/-- What is written for a metric has its window settings, with their length, and no superseded
field. -/
theorem Metric.isCurrent_of_isForm {m : Metric} {v : Json} (hv : v.IsForm m.toJson) :
    v.isCurrent ∧ v.givesWindowLength ∧ v.hasCommonPlaces := by
  obtain ⟨ms, hms⟩ : ∃ ms, m.toJson = .obj ms := ⟨_, rfl⟩
  have hnames := Metric.sublist_fieldNames hms
  have hlookup : ms.lookup "windowSettings" = some m.window.toJson := by
    cases hms
    simp [Metric.headMembers, List.lookup_cons, List.lookup_append]
  rw [hms] at hv
  obtain ⟨r, hr, hfields⟩ :=
    exists_record_of_isForm Metric.fieldNames hv Metric.nodup_fieldNames hnames
  obtain ⟨members, rfl, -, hmembers⟩ :=
    exists_members_of_isForm hv (hnames.nodup Metric.nodup_fieldNames)
  obtain ⟨w, hw, hform⟩ := hfields.lookup_of_some hlookup
  obtain ⟨window, rfl, -, hwindow⟩ := exists_members_of_isForm hform (by simp)
  have hsettings : (obj members).windowSettings? = some (obj window) := by
    rw [windowSettings?, hr, Option.bind_some, hw]
  have hdelay : window.lookup "delayHours" = none := hwindow.lookup_of_none rfl
  obtain ⟨x, hx, -⟩ : ∃ x, window.lookup "windowValue" = some x ∧ _ := hwindow.lookup_of_some rfl
  refine ⟨?_, ?_, rfl⟩
  · rw [isCurrent, hsettings, Bool.and_eq_true, List.all_eq_true]
    refine ⟨fun name hname => ?_, ?_⟩
    · have hunknown : ∀ name ∈ MetricRevision.supersededNames, name ∉ Metric.fieldNames := by
        decide
      rw [get?, List.lookup_eq_none_iff.mpr, Option.isNone_none]
      intro p hp
      refine bne_iff_ne.mpr fun heq => hunknown name hname (heq ▸ ?_)
      exact hnames.subset (hmembers.mem_map_fst (List.mem_map_of_mem hp))
    · rw [Option.bind_some, get?, hdelay]
      rfl
  · rw [givesWindowLength, hsettings, Option.all_some, get?, hx]
    rfl

/-- **A stored metric is what was written**, whatever form the document has. -/
theorem Metric.readsAs_ofStored? {m : Metric} (hm : m.Writable) :
    ReadsAs Metric.ofStored? m.toJson m := by
  intro v hv
  obtain ⟨hcurrent, hlength, hplaces⟩ := Metric.isCurrent_of_isForm hv
  obtain ⟨d, hd, hupgrade⟩ :=
    Metric.upgradesTo hcurrent hlength hplaces m (Metric.readsAs_toJson hm v hv)
  rw [Metric.ofStored?, hd, Option.map_some, hupgrade]

end ExperimentQuery
