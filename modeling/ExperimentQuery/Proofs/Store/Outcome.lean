import ExperimentQuery.Proofs.Store.Request
import ExperimentQuery.Proofs.Validation.AggregateFilter
import ExperimentQuery.Store.Repository

/-!
# Outcomes of requests

What a request leaves is said of its answer and of the documents, whatever the session, whatever
the source yields and whatever the documents are: they may be malformed, and need not stand under
their ids.

* `Command.Meets`: the answer and the documents after a request have some property;
* `Command.Observes`: a request leaves the documents as they are, and its answer has a property;
* **`Observes.bind_meets`**: a request that observes, and another one for its answer;
* `observes_get`, `observes_check`, …: the calls that observe;
* `meets_insert`, `meets_replace`, `meets_remove`: the calls that write;
* `observes_load`, `observes_guardManaged`, …: the steps of a repository.
-/

namespace ExperimentQuery

variable {α β : Type} {source : FactSource} {ds : Documents}

namespace Command

/-- Whatever the session, the answer and the documents after the request have this property. -/
def Meets (source : FactSource) (ds : Documents) (x : Command α)
    (Q : Except StoreError α → Documents → Prop) : Prop :=
  ∀ s : Session, Q (x.run.run source ⟨ds, s⟩).1 (x.run.run source ⟨ds, s⟩).2.documents

/-- The request leaves the documents as they are, and its answer, if it gives one, has this
property. -/
def Observes (source : FactSource) (ds : Documents) (x : Command α) (R : α → Prop) : Prop :=
  Meets source ds x fun r ds' => ds' = ds ∧ ∀ a, r = .ok a → R a

variable {x : Command α} {f : α → Command β} {R : α → Prop}

/-! ## One request after the other -/

/-- **A request that observes, and another one for its answer.** -/
theorem Observes.bind_meets {Q : Except StoreError β → Documents → Prop}
    (hx : Observes source ds x R) (herror : ∀ e, Q (.error e) ds)
    (hf : ∀ a, R a → Meets source ds (f a) Q) : Meets source ds (x >>= f) Q := by
  intro s
  obtain ⟨hds, hanswer⟩ := hx s
  rw [ExceptT.run_bind, Request.run_bind]
  generalize x.run.run source ⟨ds, s⟩ = outcome at hds hanswer
  obtain ⟨r, ds', s'⟩ := outcome
  obtain rfl : ds' = ds := hds
  cases r with
  | error e => exact herror e
  | ok a => exact hf a (hanswer a rfl) s'

theorem Observes.bind {R' : β → Prop} (hx : Observes source ds x R)
    (hf : ∀ a, R a → Observes source ds (f a) R') : Observes source ds (x >>= f) R' :=
  hx.bind_meets (fun _ => ⟨rfl, nofun⟩) hf

theorem meets_pure {Q : Except StoreError α → Documents → Prop} {a : α} (h : Q (.ok a) ds) :
    Meets source ds (pure a) Q := fun _ => h

theorem observes_pure {a : α} (h : R a) : Observes source ds (pure a) R :=
  meets_pure ⟨rfl, by rintro _ ⟨⟩; exact h⟩

theorem observes_throw (e : StoreError) : Observes source ds (throw e : Command α) R :=
  fun _ => ⟨rfl, nofun⟩

/-! ## Calls -/

theorem observes_get (id : String) :
    Observes source ds (Command.get id) fun found => found = ds.get? id :=
  fun _ => ⟨rfl, by rintro _ ⟨⟩; rfl⟩

theorem observes_list : Observes source ds Command.list fun docs => docs = ds.list :=
  fun _ => ⟨rfl, by rintro _ ⟨⟩; rfl⟩

theorem observes_ofCheck (y : Except ValidationError α) :
    Observes source ds (Command.ofCheck y) fun a => y = .ok a := by
  cases y with
  | ok a => exact observes_pure rfl
  | error e => exact observes_throw _

theorem observes_check (m : Metric) (features : List PremiumFeature) :
    Observes source ds (Command.check m features) fun _ => True := by
  intro s
  have hrun : ((Command.check m features).run.run source ⟨ds, s⟩).2.documents = ds := by
    change (Request.run source ⟨ds, s⟩ (.check m features _)).2.documents = ds
    rw [Request.run]
    generalize s.check source m features = outcome
    obtain ⟨(_ | _) | _, s'⟩ := outcome <;> rfl
  exact ⟨hrun, fun _ _ => trivial⟩

theorem meets_insert {Q : Except StoreError Unit → Documents → Prop} {id : String} {doc : Json}
    (htaken : Q (.error (.alreadyExists id)) ds)
    (hfree : ds.get? id = none → Q (.ok ()) (Ordered.insert id doc ds)) :
    Meets source ds (Command.insert id doc) Q := by
  intro s
  change Q (Request.run source ⟨ds, s⟩ (.insert id doc _)).1
    (Request.run source ⟨ds, s⟩ (.insert id doc _)).2.documents
  rw [Request.run, Documents.insert]
  cases hget : ds.get? id with
  | none => exact hfree hget
  | some old => exact htaken

theorem meets_replace {Q : Except StoreError Unit → Documents → Prop} {id : String} {doc : Json}
    (hfree : Q (.error (.notFound id)) ds) (htaken : Q (.ok ()) (Ordered.insert id doc ds)) :
    Meets source ds (Command.replace id doc) Q := by
  intro s
  change Q (Request.run source ⟨ds, s⟩ (.replace id doc _)).1
    (Request.run source ⟨ds, s⟩ (.replace id doc _)).2.documents
  rw [Request.run, Documents.replace]
  cases ds.get? id with
  | none => exact hfree
  | some old => exact htaken

theorem meets_remove {Q : Except StoreError Bool → Documents → Prop} {id : String}
    (h : ∀ taken, Q (.ok taken) (Ordered.erase id ds)) : Meets source ds (Command.remove id) Q :=
  fun _ => h _

theorem Meets.bind_pure {Q : Except StoreError β → Documents → Prop} {g : α → β}
    (hx : Meets source ds x fun r ds' => Q (r.map g) ds') :
    Meets source ds (x >>= fun a => pure (g a)) Q := by
  intro s
  have hanswer := hx s
  rw [ExceptT.run_bind, Request.run_bind]
  generalize x.run.run source ⟨ds, s⟩ = outcome at hanswer
  obtain ⟨r, s'⟩ := outcome
  cases r <;> exact hanswer

end Command

/-! ## Steps of a repository -/

open Command

namespace Caller

variable {c : Caller}

/-- The metric that stands under a key, in whatever revision. -/
def IsStored (ds : Documents) (key : String) (m : Metric) : Prop :=
  ∃ doc, ds.get? key = some doc ∧ Metric.ofStored? doc = some m

theorem observes_decode (doc : Json) :
    Observes source ds (decode doc) fun m => Metric.ofStored? doc = some m := by
  unfold decode
  split
  · exact observes_pure ‹_›
  · exact observes_throw _

theorem observes_load (id : String) :
    Observes source ds (load id) fun found => ∀ m ∈ found, IsStored ds id m := by
  refine (observes_get id).bind fun found hfound => ?_
  cases found with
  | none => exact observes_pure fun m hm => absurd hm (Option.not_mem_none m)
  | some doc =>
    refine (observes_decode doc).bind fun m hm => observes_pure fun m' hm' => ?_
    rw [← Option.some.inj hm']
    exact ⟨doc, hfound.symm, hm⟩

theorem observes_loadExisting (id : String) :
    Observes source ds (loadExisting id) fun m => IsStored ds id m := by
  refine (observes_load id).bind fun found hfound => ?_
  cases found with
  | none => exact observes_throw _
  | some m => exact observes_pure (hfound m rfl)

theorem observes_guardManaged (existing : Metric) (action : StoreAction) :
    Observes source ds (c.guardManaged existing action)
      fun _ => existing.managedBy = .api → c.viaApi := by
  have hcheck : Observes source ds (c.guardManaged existing action) fun _ => _ :=
    observes_ofCheck _
  intro s
  obtain ⟨hds, hanswer⟩ := hcheck s
  refine ⟨hds, fun a ha hmanaged => ?_⟩
  have hor := require_eq_ok.mp (hanswer a ha)
  simpa [hmanaged] using hor

theorem observes_guardAccess (action : StoreAction) (ms : List Metric) :
    Observes source ds (c.guardAccess action ms) fun _ => ∀ m ∈ ms, c.access.allows m := by
  unfold guardAccess
  split
  · exact observes_pure (List.all_eq_true.mp ‹_›)
  · exact observes_throw _

end Caller

end ExperimentQuery
