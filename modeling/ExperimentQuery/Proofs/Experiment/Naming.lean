import ExperimentQuery.Cli.ExperimentFile
import ExperimentQuery.Proofs.Json.Record

/-!
# The naming of an experiment's events

The settings of an experiment can name its exposure event and the properties of its events, and so
can the settings of the program. An experiment file without a naming of its own is planned with the
naming of the program's settings in every part, also where the settings of the experiment give
another name.

* `NamingPart`, `EventNaming.part`, `ExperimentSettings.part`: the parts of a naming;
* `ExperimentFile.givenPart?`: the name that the settings in a file give for a part;
* `ExperimentSettings.part_withEvents`: every part is replaced;
* **`ExperimentFile.settingsWith_part`**: the parts that a file is planned with.
-/

namespace ExperimentQuery

/-! ## Parts of a naming -/

/-- What a naming names. -/
inductive NamingPart where
  | exposureEvent
  | experimentIdProperty
  | variationIdProperty
  | extraUserIdProperty
  deriving Repr, DecidableEq

/-- The member for a part in the settings of an experiment. -/
def NamingPart.member : NamingPart → String
  | exposureEvent => "exposureEvent"
  | experimentIdProperty => "experimentIdProperty"
  | variationIdProperty => "variationIdProperty"
  | extraUserIdProperty => "extraUserIdProperty"

/-- The name that a naming has for a part. -/
def EventNaming.part (n : EventNaming) : NamingPart → Option String
  | .exposureEvent => some n.experimentEvent
  | .experimentIdProperty => some n.experimentIdProperty
  | .variationIdProperty => some n.variationIdProperty
  | .extraUserIdProperty => n.extraUserIdProperty

/-- The name that the settings of an experiment have for a part. -/
def ExperimentSettings.part (s : ExperimentSettings) : NamingPart → Option String
  | .exposureEvent => some s.exposureEvent
  | .experimentIdProperty => some s.experimentIdProperty
  | .variationIdProperty => some s.variationIdProperty
  | .extraUserIdProperty => s.extraUserIdProperty

theorem orElseText_orElseText (s fallback : String) :
    orElseText (orElseText s fallback) fallback = orElseText s fallback := by
  unfold orElseText
  split_ifs <;> rfl

theorem EventNaming.withDefaults_withDefaults (n : EventNaming) :
    n.withDefaults.withDefaults = n.withDefaults := by
  simp [withDefaults, orElseText_orElseText, Option.filter_filter]

theorem ExperimentSettings.part_withEvents (s : ExperimentSettings) (n : EventNaming)
    (p : NamingPart) : (s.withEvents n).part p = n.withDefaults.part p := by
  cases p <;> rfl

/-! ## Names given in a file -/

namespace Record

variable {α : Type} {r : Record} {name : String} {read : Json → Option α} {a b : α}

/-- A field that is given has the value that is read, and not the one of its own. -/
theorem eq_of_withDefault {fallback : α} (ha : (r.fields.lookup name).bind read = some a)
    (hb : r.withDefault name fallback read = some b) : b = a := by
  obtain ⟨w, hw, hread⟩ := Option.bind_eq_some_iff.mp ha
  rw [withDefault_of_some hw, hread] at hb
  exact (Option.some.inj hb).symm

theorem eq_of_optional {o : Option α} (hnull : read .null = none)
    (ha : (r.fields.lookup name).bind read = some a) (ho : r.optional name read = some o) :
    o = some a := by
  obtain ⟨w, hw, hread⟩ := Option.bind_eq_some_iff.mp ha
  rw [optional_of_some hw, Json.nullable?_eq_some hnull hread] at ho
  exact (Option.some.inj ho).symm

end Record

namespace ExperimentSettings

/-- The names of the members of an experiment's settings. -/
def fieldNames : List String :=
  ["experimentId", "start", "end", "exposureEvent", "experimentIdProperty", "variationIdProperty",
    "extraUserIdProperty", "metricOverrides"]

theorem part_of_ofJson? {w : Json} {s : ExperimentSettings} (h : ofJson? w = some s) :
    ∃ r, w.record? fieldNames = some r ∧
      ∀ p x, (r.fields.lookup p.member).bind Json.string? = some x → s.part p = some x := by
  simp only [ofJson?, Option.bind_eq_bind, Option.bind_eq_some_iff, Option.pure_def,
    Option.some.injEq] at h
  obtain ⟨r, hr, _, -, _, -, _, -, event, hevent, idProperty, hid, variation, hvariation, extra,
    hextra, _, -, rfl⟩ := h
  refine ⟨r, hr, fun p x hx => ?_⟩
  cases p with
  | exposureEvent => exact congrArg some (Record.eq_of_withDefault hx hevent)
  | experimentIdProperty => exact congrArg some (Record.eq_of_withDefault hx hid)
  | variationIdProperty => exact congrArg some (Record.eq_of_withDefault hx hvariation)
  | extraUserIdProperty => exact Record.eq_of_optional rfl hx hextra

end ExperimentSettings

namespace ExperimentFile

/-- The names of the members of an experiment file. -/
def fieldNames : List String := ["settings", "events", "metrics", "activation", "dimension"]

/-- The name that the settings in the document of an experiment file give for a part, if it is not
empty. -/
def givenPart? (v : Json) (p : NamingPart) : Option String := do
  let file ← v.record? fieldNames
  let settings ← (← file.fields.lookup "settings").record? ExperimentSettings.fieldNames
  ((settings.fields.lookup p.member).bind Json.string?).filter (· ≠ "")

theorem settings_of_ofJson? {v : Json} {f : ExperimentFile} (h : ofJson? v = some f) :
    ∃ r w, v.record? fieldNames = some r ∧ r.fields.lookup "settings" = some w ∧
      ExperimentSettings.ofJson? w = some f.settings := by
  simp only [ofJson?, Option.bind_eq_bind, Option.bind_eq_some_iff, Option.pure_def,
    Option.some.injEq] at h
  obtain ⟨r, hr, settings, hsettings, _, -, _, -, _, -, _, -, rfl⟩ := h
  obtain ⟨w, hlookup, hw⟩ := Option.bind_eq_some_iff.mp hsettings
  exact ⟨r, w, hr, hlookup, hw⟩

theorem part_of_givenPart? {v : Json} {f : ExperimentFile} (h : ofJson? v = some f)
    {p : NamingPart} {x : String} (hx : givenPart? v p = some x) : f.settings.part p = some x := by
  obtain ⟨file, w, hfile, hw, hsettings⟩ := settings_of_ofJson? h
  obtain ⟨r, hr, hpart⟩ := ExperimentSettings.part_of_ofJson? hsettings
  simp only [givenPart?, hfile, hw, hr, Option.bind_eq_bind, Option.bind_some] at hx
  exact hpart p x (Option.eq_some_of_filter_eq_some hx)

/-- **The parts that a file is planned with**, if it has no naming of its own: they are those of the
program's settings. What the settings in the file give for a part is read and then replaced, so that
it counts if and only if the program's settings say the same. -/
theorem settingsWith_part {v : Json} {f : ExperimentFile} (h : ofJson? v = some f)
    (hevents : f.events = none) (c : Settings) (p : NamingPart) :
    (∀ x ∈ givenPart? v p, f.settings.part p = some x) ∧
    (f.settingsWith c).part p = c.naming.part p ∧
    ((f.settingsWith c).part p = (givenPart? v p <|> c.naming.part p) ↔
      ∀ x ∈ givenPart? v p, c.naming.part p = some x) := by
  have hpart : (f.settingsWith c).part p = c.naming.part p := by
    rw [settingsWith, hevents, Option.getD_none, ExperimentSettings.part_withEvents,
      Settings.naming, EventNaming.withDefaults_withDefaults]
  refine ⟨fun x hx => part_of_givenPart? h hx, hpart, ?_⟩
  rw [hpart]
  cases hgiven : givenPart? v p with
  | none => simp
  | some x => simp

/-- An experiment whose settings name an exposure event, and settings of the program that name
another one and a property. -/
theorem settingsWith_part_exposure :
    let v : Json := .obj [("settings", .obj [("experimentId", .str "checkout"),
      ("start", .str "2024-03-01T00:00:00Z"), ("end", .str "2024-03-10T00:00:00Z"),
      ("exposureEvent", .str "seen")]), ("metrics", .arr [])]
    let c : Settings := { events := { experimentEvent := "cohort", variationIdProperty := "arm" } }
    ∃ f, ofJson? v = some f ∧ f.events = none ∧
      givenPart? v .exposureEvent = some "seen" ∧ f.settings.part .exposureEvent = some "seen" ∧
      (f.settingsWith c).part .exposureEvent = some "cohort" ∧
      (f.settingsWith c).part .variationIdProperty = some "arm" := by
  intro v c
  have hgiven : givenPart? v .exposureEvent = some "seen" := rfl
  obtain ⟨f, hf, hevents⟩ : ∃ f, ofJson? v = some f ∧ f.events = none := ⟨_, rfl, rfl⟩
  obtain ⟨hread, hplanned, -⟩ := settingsWith_part hf hevents c .exposureEvent
  exact ⟨f, hf, hevents, hgiven, hread _ hgiven, hplanned,
    (settingsWith_part hf hevents c .variationIdProperty).2.1⟩

/-- The exposure event that the settings of an experiment give is not the one that it is planned
with. -/
theorem settingsWith_loses_given :
    let v : Json := .obj [("settings", .obj [("experimentId", .str "checkout"),
      ("start", .str "2024-03-01T00:00:00Z"), ("end", .str "2024-03-10T00:00:00Z"),
      ("exposureEvent", .str "seen")]), ("metrics", .arr [])]
    ∃ f, ofJson? v = some f ∧ f.events = none ∧ givenPart? v .exposureEvent = some "seen" ∧
      (f.settingsWith {}).part .exposureEvent = some "$experiment_started" ∧
      (f.settingsWith {}).part .exposureEvent ≠
        (givenPart? v .exposureEvent <|> (Settings.naming {}).part .exposureEvent) :=
  ⟨_, rfl, rfl, rfl, rfl, by decide⟩

end ExperimentFile

end ExperimentQuery
