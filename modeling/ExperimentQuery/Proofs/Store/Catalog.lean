import ExperimentQuery.Proofs.Metric.Document
import ExperimentQuery.Proofs.Validation.AggregateFilter
import ExperimentQuery.Store.Repository

/-!
# A catalogue of metrics

A catalogue keeps metrics as they are, by their ids and in the order of their ids. It says what the
callers of a store are to be answered.

* `StoreCall`, `StoreAnswer`: what callers ask, and what they are answered;
* `Catalog.create`, `Catalog.update`, `Catalog.delete`: the rules, first violation first;
* **`Catalog.answer`**: the answer to any call, and the catalogue after it;
* `Catalog.Sound`: every metric stands under its id and can be written;
* `Catalog.Change`, `Catalog.change_answer`: what a call may do to a catalogue;
* `Change.sound`, `Change.keeps`: what it preserves.
-/

namespace ExperimentQuery

/-- What a caller asks of a store; a new metric without an id is given one made of fresh text. -/
inductive StoreCall where
  | create (now : Time.Instant) (fresh : String) (metric : Metric)
  | update (now : Time.Instant) (id : String) (metric : Metric)
  | delete (id : String)
  | get (id : String)
  | list

/-- The metrics of a call have finite numbers, and the present is in the calendar. -/
def StoreCall.Writable : StoreCall → Prop
  | .create now _ m => now.Valid ∧ m.FiniteNumbers
  | .update now _ m => now.Valid ∧ m.FiniteNumbers
  | _ => True

/-- What a caller is answered. -/
inductive StoreAnswer where
  | metric (m : Metric)
  | found (m : Option Metric)
  | all (ms : List Metric)
  | done

/-- Metrics by their ids, the ids in order. -/
abbrev Catalog := List (String × Metric)

namespace Catalog

variable (tables : FactTables) (c : Caller) (cat : Catalog)

/-- A metric added; both of its dates are the present. -/
def create (now : Time.Instant) (fresh : String) (metric : Metric) :
    Except StoreError (Metric × Catalog) := do
  let m := Caller.withId fresh metric
  require (isMetricId m.id) (.invalid (.invalidIdFormat m.id))
  require (c.access.allows m) (.permissionDenied .create)
  (m.check tables c.features).mapError .invalid
  require (Ordered.find? m.id cat).isNone (.alreadyExists m.id)
  let m := { m with dateCreated := some now, dateUpdated := some now }
  return (m, Ordered.insert m.id m cat)

/-- A metric replaced; it keeps its id and the date of its creation. -/
def update (now : Time.Instant) (id : String) (metric : Metric) :
    Except StoreError (Metric × Catalog) := do
  let existing ← requireSome (Ordered.find? id cat) (.notFound id)
  require (existing.managedBy ≠ .api || c.viaApi) (.invalid (.managedByApi .update))
  require (metric.datasource == existing.datasource) (.invalid (.readonlyField "datasource"))
  let m := { metric with id := existing.id }
  require (c.access.allows existing && c.access.allows m) (.permissionDenied .update)
  (m.check tables c.features).mapError .invalid
  let m := { m with dateCreated := existing.dateCreated, dateUpdated := some now }
  return (m, Ordered.insert id m cat)

/-- A metric removed. -/
def delete (id : String) : Except StoreError Catalog := do
  let existing ← requireSome (Ordered.find? id cat) (.notFound id)
  require (existing.managedBy ≠ .api || c.viaApi) (.invalid (.managedByApi .delete))
  require (c.access.allows existing) (.permissionDenied .delete)
  return Ordered.erase id cat

/-- **The answer to a call, and the catalogue after it**; a call that fails leaves the catalogue as
it is. -/
def answer : StoreCall → Except StoreError (StoreAnswer × Catalog)
  | .create now fresh metric =>
    (cat.create tables c now fresh metric).map fun (m, cat') => (.metric m, cat')
  | .update now id metric =>
    (cat.update tables c now id metric).map fun (m, cat') => (.metric m, cat')
  | .delete id => (cat.delete c id).map fun cat' => (.done, cat')
  | .get id => .ok (.found ((Ordered.find? id cat).filter c.access.allows), cat)
  | .list => .ok (.all ((cat.map (·.2)).filter c.access.allows), cat)

/-! ## Changes -/

/-- The ids are in order, and every metric stands under its id, which has the form of one, and can
be written. -/
structure Sound (cat : Catalog) : Prop where
  increasing : Ordered.Increasing cat
  writable : ∀ id m, Ordered.find? id cat = some m → m.Writable
  id_eq : ∀ id m, Ordered.find? id cat = some m → m.id = id
  isMetricId : ∀ id m, Ordered.find? id cat = some m → isMetricId id

/-- What a call that succeeds may do to a catalogue. -/
inductive Change (c : Caller) (cat : Catalog) : Catalog → Prop
  | unchanged : Change c cat cat
  | added (m : Metric) (hid : ExperimentQuery.isMetricId m.id) (hm : m.Writable)
      (hfree : Ordered.find? m.id cat = none) : Change c cat (Ordered.insert m.id m cat)
  | replaced (old m : Metric) (hold : Ordered.find? m.id cat = some old) (hm : m.Writable)
      (hdatasource : m.datasource = old.datasource) (hcreated : m.dateCreated = old.dateCreated)
      (hmanaged : old.managedBy = .api → c.viaApi) : Change c cat (Ordered.insert m.id m cat)
  | removed (old : Metric) (hold : Ordered.find? old.id cat = some old)
      (hmanaged : old.managedBy = .api → c.viaApi) : Change c cat (Ordered.erase old.id cat)

variable {tables : FactTables} {c : Caller} {cat cat' : Catalog} {a : StoreAnswer} {m : Metric}

theorem change_create {now : Time.Instant} {fresh : String} {metric : Metric} (hnow : now.Valid)
    (hmetric : metric.FiniteNumbers)
    (h : cat.create tables c now fresh metric = .ok (m, cat')) : Change c cat cat' := by
  obtain ⟨_, hid, h⟩ := bind_eq_ok.mp h
  obtain ⟨_, -, h⟩ := bind_eq_ok.mp h
  obtain ⟨_, -, h⟩ := bind_eq_ok.mp h
  obtain ⟨_, hfree, h⟩ := bind_eq_ok.mp h
  cases h
  have hnumbers : (Caller.withId fresh metric).FiniteNumbers := by
    unfold Caller.withId
    split
    · exact hmetric.relabelled _ _ _
    · exact hmetric
  refine .added _ (require_eq_ok.mp hid) ⟨hnumbers.relabelled _ _ _, ?_, ?_⟩
    (Option.isNone_iff_eq_none.mp (require_eq_ok.mp hfree))
  · rintro _ ⟨⟩
    exact hnow
  · rintro _ ⟨⟩
    exact hnow

theorem map_eq_ok {α β ε : Type} {x : Except ε α} {f : α → β} {b : β} :
    x.map f = .ok b ↔ ∃ a, x = .ok a ∧ f a = b := by
  cases x <;> simp [Except.map]

theorem exists_of_requireSome {α ε : Type} {o : Option α} {e : ε} {b : α}
    (h : requireSome o e = .ok b) : o = some b := by
  cases o with
  | none => exact nomatch h
  | some b' => exact congrArg some (Except.ok.inj h)

theorem managedBy_of_require {e : StoreError}
    (h : require (m.managedBy ≠ .api || c.viaApi) e = .ok ()) : m.managedBy = .api → c.viaApi := by
  intro hm
  have hor := require_eq_ok.mp h
  rw [hm] at hor
  exact hor

theorem change_update (hcat : cat.Sound) {now : Time.Instant} {id : String} {metric : Metric}
    (hnow : now.Valid) (hmetric : metric.FiniteNumbers)
    (h : cat.update tables c now id metric = .ok (m, cat')) : Change c cat cat' := by
  obtain ⟨old, hold, h⟩ := bind_eq_ok.mp h
  obtain ⟨_, hmanaged, h⟩ := bind_eq_ok.mp h
  obtain ⟨_, hdatasource, h⟩ := bind_eq_ok.mp h
  obtain ⟨_, -, h⟩ := bind_eq_ok.mp h
  obtain ⟨_, -, h⟩ := bind_eq_ok.mp h
  cases h
  have hold := exists_of_requireSome hold
  obtain rfl := hcat.id_eq id old hold
  refine .replaced old
    { metric with id := old.id, dateCreated := old.dateCreated, dateUpdated := some now } hold
    ⟨hmetric.relabelled _ _ _, ?_, ?_⟩
    (beq_iff_eq.mp (require_eq_ok.mp hdatasource)) rfl (managedBy_of_require hmanaged)
  · exact (hcat.writable _ _ hold).dateCreated
  · rintro _ ⟨⟩
    exact hnow

theorem change_delete (hcat : cat.Sound) {id : String}
    (h : cat.delete c id = .ok cat') : Change c cat cat' := by
  obtain ⟨old, hold, h⟩ := bind_eq_ok.mp h
  obtain ⟨_, hmanaged, h⟩ := bind_eq_ok.mp h
  obtain ⟨_, -, h⟩ := bind_eq_ok.mp h
  cases h
  have hold := exists_of_requireSome hold
  obtain rfl := hcat.id_eq id old hold
  exact .removed old hold (managedBy_of_require hmanaged)

/-- **Every call makes one of these changes.** -/
theorem change_answer (hcat : cat.Sound) {call : StoreCall} (hcall : call.Writable)
    (h : cat.answer tables c call = .ok (a, cat')) : Change c cat cat' := by
  cases call with
  | create now fresh metric =>
    obtain ⟨p, hp, heq⟩ := map_eq_ok.mp h
    cases heq
    exact change_create hcall.1 hcall.2 hp
  | update now id metric =>
    obtain ⟨p, hp, heq⟩ := map_eq_ok.mp h
    cases heq
    exact change_update hcat hcall.1 hcall.2 hp
  | delete id =>
    obtain ⟨p, hp, heq⟩ := map_eq_ok.mp h
    cases heq
    exact change_delete hcat hp
  | get id => cases h; exact .unchanged
  | list => cases h; exact .unchanged

/-! ## What changes preserve -/

theorem sound_nil : Sound [] := by
  have hnone : ∀ (id : String) (m : Metric), Ordered.find? id [] ≠ some m := by
    intro id m
    rw [Ordered.find?_nil]
    exact nofun
  exact ⟨Ordered.increasing_nil, fun id m h => absurd h (hnone id m),
    fun id m h => absurd h (hnone id m), fun id m h => absurd h (hnone id m)⟩

theorem Sound.insert (hcat : cat.Sound) {m : Metric} (hm : m.Writable)
    (hid : ExperimentQuery.isMetricId m.id) : Sound (Ordered.insert m.id m cat) := by
  have hfind : ∀ id m', Ordered.find? id (Ordered.insert m.id m cat) = some m' →
      m' = m ∧ id = m.id ∨ Ordered.find? id cat = some m' := by
    intro id m' h
    by_cases heq : id = m.id
    · subst heq
      rw [Ordered.find?_insert_self] at h
      exact .inl ⟨(Option.some.inj h).symm, rfl⟩
    · rw [Ordered.insert, Ordered.find?_update_of_ne heq] at h
      exact .inr h
  refine ⟨Ordered.increasing_update _ hcat.increasing, fun id m' h => ?_, fun id m' h => ?_,
    fun id m' h => ?_⟩
  · rcases hfind id m' h with ⟨rfl, -⟩ | h
    · exact hm
    · exact hcat.writable id m' h
  · rcases hfind id m' h with ⟨rfl, rfl⟩ | h
    · rfl
    · exact hcat.id_eq id m' h
  · rcases hfind id m' h with ⟨-, rfl⟩ | h
    · exact hid
    · exact hcat.isMetricId id m' h

theorem Sound.erase (hcat : cat.Sound) (k : String) : Sound (Ordered.erase k cat) := by
  have hfind : ∀ id m, Ordered.find? id (Ordered.erase k cat) = some m →
      Ordered.find? id cat = some m := by
    intro id m h
    by_cases heq : id = k
    · rw [heq, Ordered.find?_erase_self] at h
      exact nomatch h
    · rwa [Ordered.find?_erase_of_ne heq] at h
  exact ⟨hcat.increasing.erase k, fun id m h => hcat.writable id m (hfind id m h),
    fun id m h => hcat.id_eq id m (hfind id m h),
    fun id m h => hcat.isMetricId id m (hfind id m h)⟩

/-- **Every metric still stands under its id.** -/
theorem Change.sound (h : Change c cat cat') (hcat : cat.Sound) : cat'.Sound := by
  cases h with
  | unchanged => exact hcat
  | added m hid hm hfree => exact hcat.insert hm hid
  | replaced old m hold hm hdatasource hcreated hmanaged =>
    exact hcat.insert hm (hcat.isMetricId _ _ hold)
  | removed old hold hmanaged => exact hcat.erase old.id

/-- **A metric that is still there has its datasource and the date of its creation.** -/
theorem Change.keeps (h : Change c cat cat') {id : String} {m m' : Metric}
    (hm : Ordered.find? id cat = some m) (hm' : Ordered.find? id cat' = some m') :
    m'.datasource = m.datasource ∧ m'.dateCreated = m.dateCreated := by
  have hsame : ∀ {n : Metric}, Ordered.find? id cat = some n → n = m :=
    fun hn => Option.some.inj (hn.symm.trans hm)
  cases h with
  | unchanged => rw [hsame hm']; exact ⟨rfl, rfl⟩
  | added new hid hnew hfree =>
    have hne : id ≠ new.id := by
      rintro rfl
      rw [hfree] at hm
      exact nomatch hm
    rw [Ordered.insert, Ordered.find?_update_of_ne hne] at hm'
    rw [hsame hm']
    exact ⟨rfl, rfl⟩
  | replaced old new hold hnew hdatasource hcreated hmanaged =>
    by_cases heq : id = new.id
    · subst heq
      rw [Ordered.find?_insert_self] at hm'
      obtain rfl := Option.some.inj hm'
      obtain rfl := hsame hold
      exact ⟨hdatasource, hcreated⟩
    · rw [Ordered.insert, Ordered.find?_update_of_ne heq] at hm'
      rw [hsame hm']
      exact ⟨rfl, rfl⟩
  | removed old hold hmanaged =>
    by_cases heq : id = old.id
    · rw [heq, Ordered.find?_erase_self] at hm'
      exact nomatch hm'
    · rw [Ordered.find?_erase_of_ne heq] at hm'
      rw [hsame hm']
      exact ⟨rfl, rfl⟩

end Catalog

end ExperimentQuery
