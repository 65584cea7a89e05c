import ExperimentQuery.Metric.Revision
import ExperimentQuery.Proofs.Json.Form
import ExperimentQuery.Proofs.Json.Record

/-!
# Upgrading current documents

A current document gives none of the fields that were superseded. It can be read as a metric, or
read as a stored revision and upgraded. Both ways give the same metric, with two exceptions: a
window without a length has length zero in one way and the default length in the other, and a list
of values stands for other fields from the place on where the superseded ones come in.

* `MetricRevision.supersededNames`, `Json.isCurrent`: documents without superseded fields;
* `Json.givesWindowLength`, `Json.hasCommonPlaces`: documents without the two exceptions;
* `UpgradesTo`: whatever one reader gives, the other gives something that upgrades to it;
* `WindowSettings.upgradesTo`, `Metric.upgradesTo`: the readers do so without the exceptions;
* `WindowRevision.upgrade_ne`: and do not with them;
* **`Metric.ofStored?_eq_some_iff`**: when both ways agree.
-/

namespace ExperimentQuery

/-! ## Current documents -/

/-- The fields whose content later documents hold in the window and capping settings. -/
def MetricRevision.supersededNames : List String :=
  ["hasConversionWindow", "conversionWindowValue", "conversionWindowUnit", "conversionDelayHours",
    "capping", "capValue"]

theorem Metric.nodup_fieldNames : Metric.fieldNames.Nodup := by decide

theorem MetricRevision.nodup_fieldNames : MetricRevision.fieldNames.Nodup := by decide

namespace Json

/-- The window settings of a document, if it has any. -/
def windowSettings? (v : Json) : Option Json :=
  (v.record? Metric.fieldNames).bind (·.fields.lookup "windowSettings")

/-- Whether a document gives no superseded field. -/
def isCurrent (v : Json) : Bool :=
  MetricRevision.supersededNames.all (fun name => (v.get? name).isNone) &&
    (v.windowSettings?.bind (·.get? "delayHours")).isNone

/-- Whether the window settings of a document, if it has any, give a length. -/
def givesWindowLength (v : Json) : Bool :=
  v.windowSettings?.all fun w => (w.get? "windowValue").isSome

/-- Whether a document that is a list of values ends before the place of the superseded fields. -/
def hasCommonPlaces (v : Json) : Bool := v.items?.all (·.length ≤ 17)

end Json

/-! ## Readings that upgrade -/

/-- Whatever the first reading gives, the second gives something that upgrades to it. -/
def UpgradesTo {α δ : Type} (upgrade : δ → α) (current : Option α) (stored : Option δ) : Prop :=
  ∀ a, current = some a → ∃ d, stored = some d ∧ upgrade d = a

namespace UpgradesTo

variable {α β δ : Type} {upgrade : δ → α} {r : Record} {name : String} {read : Json → Option β}

theorem of_eq {a : α} {d : δ} (h : upgrade d = a) : UpgradesTo upgrade (some a) (some d) := by
  intro b hb
  exact ⟨d, rfl, h.trans (Option.some.inj hb)⟩

theorem bind_same {x : Option β} {f : β → Option α} {g : β → Option δ}
    (h : ∀ b, x = some b → UpgradesTo upgrade (f b) (g b)) :
    UpgradesTo upgrade (x.bind f) (x.bind g) := by
  intro a ha
  obtain ⟨b, hb, ha⟩ := Option.bind_eq_some_iff.mp ha
  obtain ⟨d, hd, hupgrade⟩ := h b hb a ha
  exact ⟨d, Option.bind_eq_some_iff.mpr ⟨b, hb, hd⟩, hupgrade⟩

/-- A field with a value of its own in one reading, which the other reading leaves out. -/
theorem bind_upgraded {ε : Type} (inner : ε → β) {read' : Json → Option ε} {fallback : β}
    {f : β → Option α} {g : Option ε → Option δ} (hnull : read' .null = none)
    (hread : ∀ w, r.fields.lookup name = some w → UpgradesTo inner (read w) (read' w))
    (h : ∀ o : Option ε, UpgradesTo upgrade (f ((o.map inner).getD fallback)) (g o)) :
    UpgradesTo upgrade ((r.withDefault name fallback read).bind f)
      ((r.optional name read').bind g) := by
  intro a ha
  obtain ⟨b, hb, ha⟩ := Option.bind_eq_some_iff.mp ha
  have hoptional : ∃ o, r.optional name read' = some o ∧ (o.map inner).getD fallback = b := by
    cases hw : r.fields.lookup name with
    | none =>
      rw [Record.withDefault_of_none hw] at hb
      exact ⟨none, Record.optional_of_none hw, Option.some.inj hb⟩
    | some w =>
      rw [Record.withDefault_of_some hw] at hb
      obtain ⟨e, he, rfl⟩ := hread w hw b hb
      rw [Record.optional_of_some hw]
      exact ⟨some e, Json.nullable?_eq_some hnull he, rfl⟩
  obtain ⟨o, ho, rfl⟩ := hoptional
  obtain ⟨d, hd, hupgrade⟩ := h o a ha
  exact ⟨d, Option.bind_eq_some_iff.mpr ⟨o, ho, hd⟩, hupgrade⟩

theorem bind_fallback {fallback : β} {f : β → Option α} {g : Option β → Option δ}
    (hnull : read .null = none)
    (h : ∀ o : Option β, UpgradesTo upgrade (f (o.getD fallback)) (g o)) :
    UpgradesTo upgrade ((r.withDefault name fallback read).bind f)
      ((r.optional name read).bind g) := by
  refine bind_upgraded id hnull (fun w _ b hb => ⟨b, hb, rfl⟩) fun o => ?_
  rw [Option.map_id_apply]
  exact h o

theorem bind_given {fallback : β} {f : β → Option α} {g : Option β → Option δ}
    (hgiven : (r.fields.lookup name).isSome) (hnull : read .null = none)
    (h : ∀ b, UpgradesTo upgrade (f b) (g (some b))) :
    UpgradesTo upgrade ((r.withDefault name fallback read).bind f)
      ((r.optional name read).bind g) := by
  intro a ha
  obtain ⟨w, hw⟩ := Option.isSome_iff_exists.mp hgiven
  obtain ⟨b, hb, ha⟩ := Option.bind_eq_some_iff.mp ha
  rw [Record.withDefault_of_some hw] at hb
  have hread : r.optional name read = some (some b) := by
    rw [Record.optional_of_some hw, Json.nullable?_eq_some hnull hb]
  obtain ⟨d, hd, hupgrade⟩ := h b a ha
  exact ⟨d, Option.bind_eq_some_iff.mpr ⟨some b, hread, hd⟩, hupgrade⟩

/-- A field that only the stored revision has, and the document does not give. -/
theorem bind_superseded {x : Option α} {g : Option β → Option δ}
    (hnone : r.fields.lookup name = none) (h : UpgradesTo upgrade x (g none)) :
    UpgradesTo upgrade x ((r.optional name read).bind g) := by
  intro a ha
  obtain ⟨d, hd, hupgrade⟩ := h a ha
  exact ⟨d, Option.bind_eq_some_iff.mpr ⟨none, Record.optional_of_none hnone, hd⟩, hupgrade⟩

end UpgradesTo

/-! ## Windows -/

/-- **Window settings that give a length, and no delay in hours, keep their meaning.** -/
theorem WindowSettings.upgradesTo {w : Json} (hdelay : w.get? "delayHours" = none)
    (hlength : (w.get? "windowValue").isSome) :
    UpgradesTo WindowRevision.upgrade (WindowSettings.ofJson? w) (WindowRevision.ofJson? w) := by
  cases w with
  | obj members =>
    have hrecord :
        (Json.obj members).record?
          ["type", "delayHours", "delayValue", "delayUnit", "windowValue", "windowUnit"] =
        (Json.obj members).record?
          ["type", "delayValue", "delayUnit", "windowValue", "windowUnit"] :=
      record?_of_extra ["delayHours"] (by simp; grind) (by simpa using hdelay)
    rw [WindowSettings.ofJson?, WindowRevision.ofJson?, hrecord]
    refine .bind_same fun r hr => ?_
    have hdelay : r.fields.lookup "delayHours" = none := lookup_of_not_mem hr (by decide)
    have hlength : (r.fields.lookup "windowValue").isSome := by
      rw [lookup_obj hr (by decide)]
      exact hlength
    refine .bind_same fun kind _ => ?_
    refine .bind_superseded hdelay ?_
    refine .bind_fallback rfl fun delayValue => ?_
    refine .bind_fallback rfl fun delayUnit => ?_
    refine .bind_given hlength rfl fun windowValue => ?_
    refine .bind_fallback rfl fun windowUnit => ?_
    exact .of_eq rfl
  | _ => exact nomatch hlength

theorem nullable?_number_of_unit {x : Json} {u : TimeUnit} (h : TimeUnit.ofJson? x = some u) :
    Json.nullable? Json.number? x = none := by
  cases x with
  | str s => rfl
  | obj members => rfl
  | _ => exact nomatch h

/-- **Window settings without a length do not keep their meaning**: their length is zero in one
reading and the default in the other. -/
theorem WindowRevision.upgrade_ne {w : Json} {s : WindowSettings} {d : WindowRevision}
    (hs : WindowSettings.ofJson? w = some s) (hd : WindowRevision.ofJson? w = some d)
    (hlength : w.get? "windowValue" = none) : d.upgrade ≠ s := by
  obtain ⟨r, hr, hs⟩ := Option.bind_eq_some_iff.mp hs
  obtain ⟨kind, -, hs⟩ := Option.bind_eq_some_iff.mp hs
  obtain ⟨delayValue, -, hs⟩ := Option.bind_eq_some_iff.mp hs
  obtain ⟨delayUnit, hunit, hs⟩ := Option.bind_eq_some_iff.mp hs
  obtain ⟨windowValue, hvalue, hs⟩ := Option.bind_eq_some_iff.mp hs
  obtain ⟨windowUnit, -, hs⟩ := Option.bind_eq_some_iff.mp hs
  obtain ⟨r', hr', hd⟩ := Option.bind_eq_some_iff.mp hd
  obtain ⟨kind', -, hd⟩ := Option.bind_eq_some_iff.mp hd
  obtain ⟨delayHours', -, hd⟩ := Option.bind_eq_some_iff.mp hd
  obtain ⟨delayValue', hdelay', hd⟩ := Option.bind_eq_some_iff.mp hd
  obtain ⟨delayUnit', -, hd⟩ := Option.bind_eq_some_iff.mp hd
  obtain ⟨windowValue', hvalue', hd⟩ := Option.bind_eq_some_iff.mp hd
  obtain ⟨windowUnit', -, hd⟩ := Option.bind_eq_some_iff.mp hd
  cases hs
  cases hd
  have hnone : r.fields.lookup "windowValue" = none ∧ r'.fields.lookup "windowValue" = none := by
    cases w with
    | obj members =>
      rw [lookup_obj hr (by decide), lookup_obj hr' (by decide)]
      exact ⟨hlength, hlength⟩
    | arr items =>
      -- the unit of the delay stands where the other reading has the delay
      have hunitPlace := lookup_arr (i := 2) hr (by decide) rfl
      have hdelayPlace := lookup_arr (i := 2) hr' (by decide) rfl
      have hend : items[2]? = none := by
        cases hx : items[2]? with
        | none => rfl
        | some x =>
          rw [Record.withDefault_of_some (hunitPlace.trans hx)] at hunit
          rw [Record.optional_of_some (hdelayPlace.trans hx), nullable?_number_of_unit hunit]
            at hdelay'
          exact nomatch hdelay'
      rw [lookup_arr hr (by decide) (i := 3) rfl, lookup_arr (i := 4) hr' (by decide) rfl]
      rw [List.getElem?_eq_none_iff] at hend
      exact ⟨List.getElem?_eq_none (by omega), List.getElem?_eq_none (by omega)⟩
    | _ => exact nomatch hr
  rw [Record.withDefault_of_none hnone.1] at hvalue
  rw [Record.optional_of_none hnone.2] at hvalue'
  cases hvalue
  cases hvalue'
  intro heq
  have hzero : defaultWindowHours = 0.0 := congrArg WindowSettings.windowValue heq
  exact absurd hzero (by decide)

/-! ## Definitions -/

/-- The superseded fields of a current document do not matter. -/
theorem record?_of_isCurrent {v : Json} (hv : v.isCurrent) (hplaces : v.hasCommonPlaces) :
    v.record? MetricRevision.fieldNames = v.record? Metric.fieldNames := by
  cases v with
  | obj members =>
    have hperm : MetricRevision.fieldNames.Perm
        (Metric.fieldNames ++ MetricRevision.supersededNames) := by decide
    refine record?_of_extra MetricRevision.supersededNames (fun name => ?_) fun name hname => ?_
    · rw [hperm.mem_iff, List.mem_append]
    · rw [Json.isCurrent, Bool.and_eq_true, List.all_eq_true] at hv
      exact Option.isNone_iff_eq_none.mp (hv.1 name hname)
  | arr items =>
    have hlength : items.length ≤ 17 := of_decide_eq_true hplaces
    exact record?_of_take (n := 17) rfl (by decide) (by decide) hlength
  | _ => rfl

/-- **A current document without the exceptions is read as a revision that upgrades to the metric
that it is read as.** -/
theorem Metric.upgradesTo {v : Json} (hv : v.isCurrent) (hlength : v.givesWindowLength)
    (hplaces : v.hasCommonPlaces) :
    UpgradesTo MetricRevision.upgrade (Metric.ofJson? v) (MetricRevision.ofJson? v) := by
  rw [Metric.ofJson?, MetricRevision.ofJson?, record?_of_isCurrent hv hplaces]
  refine .bind_same fun r hr => ?_
  have hold : ∀ name, name ∉ Metric.fieldNames → r.fields.lookup name = none :=
    fun name hname => lookup_of_not_mem hr hname
  have hwindow : ∀ w, r.fields.lookup "windowSettings" = some w →
      UpgradesTo WindowRevision.upgrade (WindowSettings.ofJson? w) (WindowRevision.ofJson? w) := by
    intro w hw
    have hsettings : v.windowSettings? = some w := by
      rw [Json.windowSettings?, hr, Option.bind_some, hw]
    rw [Json.isCurrent, hsettings, Bool.and_eq_true] at hv
    rw [Json.givesWindowLength, hsettings] at hlength
    exact WindowSettings.upgradesTo (Option.isNone_iff_eq_none.mp hv.2) hlength
  -- the fields before the window settings are read alike
  iterate 13 refine .bind_same fun _ _ => ?_
  refine .bind_upgraded _ rfl hwindow fun window => ?_
  refine .bind_fallback rfl fun capping => ?_
  refine .bind_fallback rfl fun prior => ?_
  refine .bind_same fun quantile _ => ?_
  -- the superseded fields stand here, and after them the thresholds, which have defaults
  iterate 6 refine .bind_superseded (hold _ (by decide)) ?_
  iterate 5 refine .bind_fallback rfl fun _ => ?_
  iterate 6 refine .bind_same fun _ _ => ?_
  refine .of_eq ?_
  cases window <;> rfl

theorem Metric.exists_record_of_ofJson? {v : Json} {m : Metric} (h : Metric.ofJson? v = some m) :
    ∃ r, v.record? Metric.fieldNames = some r ∧
      r.withDefault "windowSettings" {} WindowSettings.ofJson? = some m.window ∧
      r.withDefault "winRisk" defaultWinRisk Json.number? = some m.winRisk := by
  obtain ⟨r, hr, h⟩ := Option.bind_eq_some_iff.mp h
  iterate 13 obtain ⟨_, -, h⟩ := Option.bind_eq_some_iff.mp h
  obtain ⟨window, hwindow, h⟩ := Option.bind_eq_some_iff.mp h
  iterate 3 obtain ⟨_, -, h⟩ := Option.bind_eq_some_iff.mp h
  obtain ⟨winRisk, hwinRisk, h⟩ := Option.bind_eq_some_iff.mp h
  iterate 10 obtain ⟨_, -, h⟩ := Option.bind_eq_some_iff.mp h
  cases h
  exact ⟨r, hr, hwindow, hwinRisk⟩

theorem MetricRevision.exists_record_of_ofJson? {v : Json} {d : MetricRevision}
    (h : MetricRevision.ofJson? v = some d) :
    ∃ r, v.record? MetricRevision.fieldNames = some r ∧
      r.optional "windowSettings" WindowRevision.ofJson? = some d.window ∧
      r.optional "hasConversionWindow" Json.bool? = some d.hasConversionWindow := by
  obtain ⟨r, hr, h⟩ := Option.bind_eq_some_iff.mp h
  iterate 13 obtain ⟨_, -, h⟩ := Option.bind_eq_some_iff.mp h
  obtain ⟨window, hwindow, h⟩ := Option.bind_eq_some_iff.mp h
  iterate 3 obtain ⟨_, -, h⟩ := Option.bind_eq_some_iff.mp h
  obtain ⟨flag, hflag, h⟩ := Option.bind_eq_some_iff.mp h
  iterate 16 obtain ⟨_, -, h⟩ := Option.bind_eq_some_iff.mp h
  cases h
  exact ⟨r, hr, hwindow, hflag⟩

theorem nullable?_bool_of_number {x : Json} {y : Float} (h : x.number? = some y) :
    Json.nullable? Json.bool? x = none := by
  cases x with
  | int n => rfl
  | float z => rfl
  | _ => exact nomatch h

/-- A list of values that goes on to the place of the superseded fields is no stored revision. -/
theorem hasCommonPlaces_of_ofJson? {v : Json} {m : Metric} {d : MetricRevision}
    (hm : Metric.ofJson? v = some m) (hd : MetricRevision.ofJson? v = some d) :
    v.hasCommonPlaces := by
  obtain ⟨r, hr, -, hwinRisk⟩ := Metric.exists_record_of_ofJson? hm
  obtain ⟨r', hr', -, hflag⟩ := MetricRevision.exists_record_of_ofJson? hd
  cases v with
  | arr items =>
    have hrisk := lookup_arr (i := 17) hr Metric.nodup_fieldNames rfl
    have hplace := lookup_arr (i := 17) hr' MetricRevision.nodup_fieldNames rfl
    cases hx : items[17]? with
    | none => exact decide_eq_true (List.getElem?_eq_none_iff.mp hx)
    | some x =>
      rw [Record.withDefault_of_some (hrisk.trans hx)] at hwinRisk
      rw [Record.optional_of_some (hplace.trans hx), nullable?_bool_of_number hwinRisk] at hflag
      exact nomatch hflag
  | _ => rfl

theorem lookup_windowSettings {v : Json} {r r' : Record}
    (hr : v.record? Metric.fieldNames = some r)
    (hr' : v.record? MetricRevision.fieldNames = some r') :
    r'.fields.lookup "windowSettings" = r.fields.lookup "windowSettings" := by
  cases v with
  | obj members => rw [lookup_obj hr (by decide), lookup_obj hr' (by decide)]
  | arr items =>
    rw [lookup_arr (i := 13) hr Metric.nodup_fieldNames rfl,
      lookup_arr (i := 13) hr' MetricRevision.nodup_fieldNames rfl]
  | _ => exact nomatch hr

theorem givesWindowLength_of_upgrade_eq {v : Json} {m : Metric} {d : MetricRevision}
    (hm : Metric.ofJson? v = some m) (hd : MetricRevision.ofJson? v = some d)
    (hupgrade : d.upgrade = m) : v.givesWindowLength := by
  obtain ⟨r, hr, hwindow, -⟩ := Metric.exists_record_of_ofJson? hm
  obtain ⟨r', hr', hwindow', -⟩ := MetricRevision.exists_record_of_ofJson? hd
  have hsettings : v.windowSettings? = r.fields.lookup "windowSettings" := by
    rw [Json.windowSettings?, hr, Option.bind_some]
  rw [Json.givesWindowLength, hsettings]
  cases hw : r.fields.lookup "windowSettings" with
  | none => rfl
  | some w =>
    by_contra hlength
    rw [Option.all_some, Bool.not_eq_true, Option.isSome_eq_false_iff, Option.isNone_iff_eq_none]
      at hlength
    rw [Record.withDefault_of_some hw] at hwindow
    rw [Record.optional_of_some ((lookup_windowSettings hr hr').trans hw)] at hwindow'
    have hnull : w ≠ .null := by
      rintro rfl
      exact nomatch hwindow
    obtain ⟨s, hs, hsome⟩ := Json.exists_of_nullable? hnull hwindow'
    have hkept : s.upgrade = m.window := by
      rw [← hupgrade, MetricRevision.upgrade, MetricRevision.upgradeWindow, hsome]
    exact WindowRevision.upgrade_ne hwindow hs hlength hkept

/-- **When both ways agree**: a current document is read as a metric and as a stored revision that
upgrades to the metric, unless it leaves out the length of its window or is a list of values that
goes on to the place of the superseded fields. -/
theorem Metric.ofStored?_eq_some_iff {v : Json} {m : Metric} (hv : v.isCurrent)
    (hm : Metric.ofJson? v = some m) :
    Metric.ofStored? v = some m ↔ v.givesWindowLength ∧ v.hasCommonPlaces := by
  rw [Metric.ofStored?, Option.map_eq_some_iff]
  constructor
  · rintro ⟨d, hd, hupgrade⟩
    exact ⟨givesWindowLength_of_upgrade_eq hm hd hupgrade, hasCommonPlaces_of_ofJson? hm hd⟩
  · rintro ⟨hlength, hplaces⟩
    exact Metric.upgradesTo hv hlength hplaces m hm

/-- A document of a metric on sign-ups with these window settings. -/
def signupDocument (window : List (String × Json)) : Json :=
  .obj [("id", .str "fact__signups"), ("name", .str "Sign-ups"), ("datasource", .str "ds_1"),
    ("metricType", .str "count"), ("events", .str "signup"),
    ("numerator", .obj [("factTableId", .str "signups")]), ("windowSettings", .obj window)]

theorem Metric.ofStored?_eq_some_iff_daily :
    ∃ v m, v = signupDocument [("type", .str "conversion"), ("windowValue", .float 24.0)] ∧
      v.isCurrent ∧ Metric.ofJson? v = some m ∧ Metric.ofStored? v = some m :=
  ⟨_, _, rfl, by decide, rfl,
    (Metric.ofStored?_eq_some_iff (by decide) rfl).mpr ⟨by decide, by decide⟩⟩

/-- A conversion window without a length is empty for one reader and lasts three days for the
other. -/
theorem Metric.ofStored?_ne_ofJson? :
    ∃ v m, v = signupDocument [("type", .str "conversion")] ∧ v.isCurrent ∧
      Metric.ofJson? v = some m ∧ m.window.windowValue = 0.0 ∧
      (Metric.ofStored? v).map (·.window.windowValue) = some 72.0 ∧
      Metric.ofStored? v ≠ some m := by
  refine ⟨_, _, rfl, by decide, rfl, rfl, rfl, fun h => ?_⟩
  have hvalue := congrArg (Option.map (·.window.windowValue)) h
  exact absurd (Option.some.inj hvalue) (by decide)

end ExperimentQuery
