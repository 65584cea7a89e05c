import ExperimentQuery.Proofs.Json.Record
import ExperimentQuery.Proofs.Ordered

/-!
# Forms of a value

A value that is kept as free-form data has its members in order. A reader that finds members by
their names does not see the difference: it reads the same from a value and from its canonical
form.

* `Json.IsForm`: a value, or its canonical form;
* `ReadsAs`: what is read from every form of a value;
* `readsAs_str`, `readsAs_number`, …, `ReadsAs.list`: values of one kind, and lists of them;
* `Json.FormsOf`: members that are forms of some members, whatever their order;
* **`Json.exists_members_of_isForm`**, **`Json.exists_record_of_isForm`**: what every form of an
  object has;
* `FormsOf.bind_required`, `FormsOf.bind_withDefault`, `FormsOf.bind_optional`: the fields of a
  record, each read before the rest of it.
-/

namespace ExperimentQuery

namespace Json

/-- The value is the given one, or the canonical form of it. -/
def IsForm (v w : Json) : Prop := v = w ∨ v = w.canonical

theorem isForm_refl (v : Json) : v.IsForm v := .inl rfl

theorem isForm_canonical (v : Json) : v.canonical.IsForm v := .inr rfl

/-- Every form of the value is read as this. -/
def ReadsAs {α : Type} (read : Json → Option α) (w : Json) (a : α) : Prop :=
  ∀ v, v.IsForm w → read v = some a

variable {α : Type} {read : Json → Option α} {w : Json} {a : α}

/-! ## Values without members -/

theorem readsAs_of_canonical_eq (hw : w.canonical = w) (h : read w = some a) :
    ReadsAs read w a := by
  rintro v (rfl | rfl)
  · exact h
  · rw [hw, h]

theorem readsAs_str (s : String) : ReadsAs string? (.str s) s := readsAs_of_canonical_eq rfl rfl

theorem readsAs_bool (b : Bool) : ReadsAs bool? (.bool b) b := readsAs_of_canonical_eq rfl rfl

theorem readsAs_number {x : Float} (h : x.isFinite) : ReadsAs number? (.ofFloat x) x := by
  rw [ofFloat, if_pos h]
  exact readsAs_of_canonical_eq rfl rfl

theorem readsAs_nat {bits n : Nat} (h : n < Nat.pow 2 bits) :
    ReadsAs (natBelow? bits) (.ofNat n) n := by
  refine readsAs_of_canonical_eq rfl ?_
  have hbounds : (0 : Int) ≤ n ∧ (n : Int) ≤ (Nat.pow 2 bits : Int) - 1 := by omega
  rw [natBelow?, ofNat, intIn?, if_pos hbounds, Option.map_some, Int.toNat_natCast]

theorem readsAs_variant {table : List (String × α)} {name : String}
    (h : table.lookup name = some a) : ReadsAs (variant? table) (.str name) a :=
  readsAs_of_canonical_eq rfl h

/-! ## Lists -/

theorem canonicalItems_eq (vs : List Json) : canonicalItems vs = vs.map canonical := by
  induction vs with
  | nil => rfl
  | cons v vs ih => rw [canonicalItems, ih, List.map_cons]

theorem mapM_map_eq_some {β : Type} {f : α → β} {g : β → Option α} {as : List α}
    (h : ∀ a ∈ as, g (f a) = some a) : (as.map f).mapM g = some as := by
  induction as with
  | nil => rfl
  | cons a as ih =>
    rw [List.map_cons, List.mapM_cons, h a List.mem_cons_self,
      ih fun b hb => h b (List.mem_cons_of_mem _ hb)]
    rfl

theorem ReadsAs.list {write : α → Json} {as : List α}
    (h : ∀ a ∈ as, ReadsAs read (write a) a) : ReadsAs (list? read) (.arr (as.map write)) as := by
  rintro v (rfl | rfl)
  · exact mapM_map_eq_some fun a ha => h a ha _ (isForm_refl _)
  · rw [canonical, canonicalItems_eq, List.map_map]
    exact mapM_map_eq_some fun a ha => h a ha _ (isForm_canonical _)

theorem readsAs_strings (ss : List String) : ReadsAs strings? (.ofStrings ss) ss :=
  ReadsAs.list fun s _ => readsAs_str s

/-! ## Records -/

theorem canonicalMembers_eq (ms : List (String × Json)) :
    canonicalMembers ms = ms.map fun m => (m.1, m.2.canonical) := by
  induction ms with
  | nil => rfl
  | cons m ms ih => rw [canonicalMembers, ih, List.map_cons]

theorem map_fst_canonicalMembers (ms : List (String × Json)) :
    (canonicalMembers ms).map (·.1) = ms.map (·.1) := by
  rw [canonicalMembers_eq, List.map_map]
  rfl

theorem lookup_canonicalMembers (name : String) (ms : List (String × Json)) :
    (canonicalMembers ms).lookup name = (ms.lookup name).map canonical := by
  induction ms with
  | nil => rfl
  | cons m ms ih =>
    rw [canonicalMembers, List.lookup_cons, List.lookup_cons, ih]
    cases name == m.1 <;> rfl

theorem distinctNames_iff (ms : List (String × Json)) :
    distinctNames ms = true ↔ (ms.map (·.1)).Nodup := by
  induction ms with
  | nil => simp [distinctNames]
  | cons m ms ih =>
    have hmem : ms.any (·.1 == m.1) = true ↔ m.1 ∈ ms.map (·.1) := by
      simp only [List.any_eq_true, beq_iff_eq, List.mem_map]
    rw [distinctNames, Bool.and_eq_true, ih, List.map_cons, List.nodup_cons, Bool.not_eq_true',
      ← Bool.not_eq_true, hmem]

/-- The members are forms of the given ones, each under its name. -/
def FormsOf (members ms : List (String × Json)) : Prop :=
  ∀ name, Option.Rel IsForm (members.lookup name) (ms.lookup name)

namespace FormsOf

variable {members ms : List (String × Json)} {name : String}

theorem lookup_of_some (h : FormsOf members ms) (hw : ms.lookup name = some w) :
    ∃ v, members.lookup name = some v ∧ v.IsForm w := by
  have hrel := h name
  rw [hw] at hrel
  cases hv : members.lookup name with
  | none => rw [hv] at hrel; exact nomatch hrel
  | some v =>
    rw [hv] at hrel
    cases hrel with
    | some hform => exact ⟨v, rfl, hform⟩

theorem lookup_of_none (h : FormsOf members ms) (hw : ms.lookup name = none) :
    members.lookup name = none := by
  have hrel := h name
  rw [hw] at hrel
  cases hv : members.lookup name with
  | none => rfl
  | some v => rw [hv] at hrel; exact nomatch hrel

theorem mem_map_fst (h : FormsOf members ms) (hname : name ∈ members.map (·.1)) :
    name ∈ ms.map (·.1) := by
  rw [← Ordered.isSome_find?, Ordered.find?_eq_lookup] at hname ⊢
  by_contra hnone
  rw [Bool.not_eq_true, Option.isSome_eq_false_iff, Option.isNone_iff_eq_none] at hnone
  rw [h.lookup_of_none hnone] at hname
  exact nomatch hname

end FormsOf

variable {v : Json} {ms : List (String × Json)}

/-- **Every form of an object has its members**, if their names are distinct. -/
theorem exists_members_of_isForm (hv : v.IsForm (.obj ms)) (hms : (ms.map (·.1)).Nodup) :
    ∃ members, v = .obj members ∧ (members.map (·.1)).Nodup ∧ FormsOf members ms := by
  rcases hv with rfl | rfl
  · refine ⟨ms, rfl, hms, fun name => ?_⟩
    cases ms.lookup name with
    | none => exact .none
    | some w => exact .some (isForm_refl w)
  · have hkeys : ((canonicalMembers ms).map (·.1)).Nodup := by rwa [map_fst_canonicalMembers]
    refine ⟨_, rfl, (Ordered.increasing_ofList _).nodup, fun name => ?_⟩
    rw [← Ordered.find?_eq_lookup, Ordered.find?_ofList hkeys, Ordered.find?_eq_lookup,
      lookup_canonicalMembers]
    cases ms.lookup name with
    | none => exact .none
    | some w => exact .some (isForm_canonical w)

/-- **Every form of an object gives its members as fields**, if these are among the known ones and
stand in their order. -/
theorem exists_record_of_isForm (names : List String) (hv : v.IsForm (.obj ms))
    (hnames : names.Nodup) (hms : (ms.map (·.1)).Sublist names) :
    ∃ r, v.record? names = some r ∧ FormsOf r.fields ms := by
  obtain ⟨members, rfl, hdistinct, hforms⟩ := exists_members_of_isForm hv (hms.nodup hnames)
  have hfilter : members.filter (fun m => names.contains m.1) = members := by
    refine List.filter_eq_self.mpr fun m hm => List.contains_iff_mem.mpr ?_
    exact hms.subset (hforms.mem_map_fst (List.mem_map_of_mem hm))
  refine ⟨⟨members⟩, ?_, hforms⟩
  rw [record?, hfilter, if_pos ((distinctNames_iff members).mpr hdistinct)]

end Json

/-! ## Members that may be missing -/

section

variable {α : Type} {key : String} {write : α → Json} {o : Option α} {name : String}
  {names : List String}

@[simp]
theorem lookup_present :
    (Json.present key write o).lookup name = if name = key then o.map write else none := by
  cases o with
  | none => simp [Json.present]
  | some a =>
    rw [Json.present, List.lookup_cons, List.lookup_nil]
    by_cases h : name = key
    · simp [h]
    · rw [beq_false_of_ne h, if_neg h]

theorem sublist_present {ms : List (String × Json)} (h : (ms.map (·.1)).Sublist names) :
    ((Json.present key write o ++ ms).map (·.1)).Sublist (key :: names) := by
  cases o with
  | none => exact h.cons key
  | some a => exact h.cons_cons key

theorem sublist_present_last : ((Json.present key write o).map (·.1)).Sublist [key] := by
  rw [← List.append_nil (Json.present key write o)]
  exact sublist_present (List.Sublist.refl [])

end

/-! ## Fields -/

namespace Json.FormsOf

variable {α β : Type} {r : Record} {ms : List (String × Json)} {name : String} {w : Json}
  {read : Json → Option α} {a : α} {f : α → Option β} {b : β}

theorem bind_required (h : FormsOf r.fields ms) (hread : ReadsAs read w a) (hf : f a = some b)
    (hw : ms.lookup name = some w := by simp [List.lookup_cons, List.lookup_append]) :
    (r.required name read).bind f = some b := by
  obtain ⟨v, hv, hform⟩ := h.lookup_of_some hw
  rw [Record.required, hv, Option.bind_some, hread v hform, Option.bind_some, hf]

theorem bind_withDefault {fallback : α} (h : FormsOf r.fields ms) (hread : ReadsAs read w a)
    (hf : f a = some b)
    (hw : ms.lookup name = some w := by simp [List.lookup_cons, List.lookup_append]) :
    (r.withDefault name fallback read).bind f = some b := by
  obtain ⟨v, hv, hform⟩ := h.lookup_of_some hw
  rw [Record.withDefault_of_some hv, hread v hform, Option.bind_some, hf]

/-- A part that may be missing is read if it is never read from `null`. -/
theorem bind_optional {write : α → Json} {o : Option α} {f : Option α → Option β}
    (h : FormsOf r.fields ms) (hnull : read .null = none) (hread : ∀ a ∈ o, ReadsAs read (write a) a)
    (hf : f o = some b)
    (hw : ms.lookup name = o.map write := by simp [List.lookup_cons, List.lookup_append]) :
    (r.optional name read).bind f = some b := by
  have hvalue : r.optional name read = some o := by
    cases o with
    | none => exact Record.optional_of_none (h.lookup_of_none hw)
    | some a =>
      obtain ⟨v, hv, hform⟩ := h.lookup_of_some hw
      rw [Record.optional_of_some hv, nullable?_eq_some hnull (hread a rfl v hform)]
  rw [hvalue, Option.bind_some, hf]

end Json.FormsOf

end ExperimentQuery
