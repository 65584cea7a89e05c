import ExperimentQuery.Proofs.Store.Catalog
import ExperimentQuery.Proofs.Store.Request

/-!
# Stores answer as catalogues do

A store keeps documents, and a repository writes, reads and upgrades them at every call. Its callers
are answered as if the metrics themselves were kept in a catalogue.

* `Catalog.documents`: the documents of a catalogue;
* `acts_create`, `acts_update`, `acts_delete`: each rule on the documents of a catalogue;
* **`Caller.acts_perform`**: any call.
-/

namespace ExperimentQuery

open Command

variable {tables : FactTables} {ds : Documents} {c : Caller} {cat : Catalog} {m : Metric}

/-! ## Documents of a catalogue -/

theorem Metric.ofStored?_document (hm : m.Writable) : Metric.ofStored? m.document = some m :=
  Metric.readsAs_ofStored? hm _ (Json.isForm_canonical _)

/-- The documents of a catalogue. -/
def Catalog.documents (cat : Catalog) : Documents := Ordered.mapValues Metric.document cat

theorem Catalog.get?_documents (cat : Catalog) (id : String) :
    cat.documents.get? id = (Ordered.find? id cat).map Metric.document :=
  Ordered.find?_mapValues _ _ _

/-! ## Reading -/

theorem reads_require (holds : Bool) (e : ValidationError) :
    Reads tables ds (Command.ofCheck (require holds e)) (require holds (.invalid e)) := by
  have hcheck : Reads tables ds (Command.ofCheck (require holds e)) _ := reads_ofCheck _
  cases holds <;> exact hcheck

theorem reads_guardAccess (action : StoreAction) (ms : List Metric) :
    Reads tables ds (c.guardAccess action ms)
      (require (ms.all c.access.allows) (.permissionDenied action)) := by
  unfold Caller.guardAccess require
  split
  · exact reads_pure ()
  · exact reads_throw _

theorem reads_guardAccess_one (action : StoreAction) (m : Metric) :
    Reads tables ds (c.guardAccess action [m])
      (require (c.access.allows m) (.permissionDenied action)) := by
  have hguard : Reads tables ds (c.guardAccess action [m]) _ := reads_guardAccess action [m]
  rwa [List.all_cons, List.all_nil, Bool.and_true] at hguard

theorem reads_guardAccess_two (action : StoreAction) (m n : Metric) :
    Reads tables ds (c.guardAccess action [m, n])
      (require (c.access.allows m && c.access.allows n) (.permissionDenied action)) := by
  have hguard : Reads tables ds (c.guardAccess action [m, n]) _ := reads_guardAccess action [m, n]
  rwa [List.all_cons, List.all_cons, List.all_nil, Bool.and_true] at hguard

theorem reads_decode (hm : m.Writable) : Reads tables ds (Caller.decode m.document) (.ok m) := by
  rw [Caller.decode, Metric.ofStored?_document hm]
  exact reads_pure m

theorem reads_load (hcat : cat.Sound) (id : String) :
    Reads tables cat.documents (Caller.load id) (.ok (Ordered.find? id cat)) := by
  refine (reads_get id).bind_ok ?_
  rw [Catalog.get?_documents]
  cases hm : Ordered.find? id cat with
  | none => exact reads_pure none
  | some m => exact (reads_decode (hcat.writable id m hm)).bind_ok (reads_pure _)

theorem reads_loadExisting (hcat : cat.Sound) (id : String) :
    Reads tables cat.documents (Caller.loadExisting id)
      (requireSome (Ordered.find? id cat) (.notFound id)) := by
  refine (reads_load hcat id).bind_ok ?_
  cases Ordered.find? id cat with
  | none => exact reads_throw _
  | some m => exact reads_pure m

theorem reads_mapM_decode {ms : List Metric} (hms : ∀ m ∈ ms, m.Writable) :
    Reads tables ds ((ms.map Metric.document).mapM Caller.decode) (.ok ms) := by
  induction ms with
  | nil => exact reads_pure []
  | cons m ms ih =>
    obtain ⟨hm, hms⟩ := List.forall_mem_cons.mp hms
    rw [List.map_cons, List.mapM_cons]
    exact (reads_decode hm).bind_ok ((ih hms).bind_ok (reads_pure _))

theorem reads_list_documents (hcat : cat.Sound) :
    Reads tables cat.documents c.list (.ok ((cat.map (·.2)).filter c.access.allows)) := by
  have hlist : cat.documents.list = (cat.map (·.2)).map Metric.document := by
    rw [Documents.list, Catalog.documents, Ordered.mapValues, List.map_map, List.map_map]
    rfl
  have hwritable : ∀ m ∈ cat.map (·.2), m.Writable := by
    intro m hm
    obtain ⟨p, hp, rfl⟩ := List.mem_map.mp hm
    exact hcat.writable p.1 p.2 (hcat.increasing.find?_of_mem hp)
  refine reads_list.bind_ok ?_
  rw [hlist]
  exact (reads_mapM_decode hwritable).bind_ok (reads_pure _)

/-! ## Acting -/

/-- The outcome of a rule on the documents of a catalogue. -/
def onDocuments {α : Type} (p : α × Catalog) : α × Documents := (p.1, p.2.documents)

theorem map_bind_except {α β γ ε : Type} (x : Except ε α) (z : α → Except ε β) (f : β → γ) :
    (x >>= z).map f = x >>= fun a => (z a).map f := by
  cases x <;> rfl

theorem acts_insert_metric (m : Metric) :
    Acts tables cat.documents (do Command.insert m.id m.document; return m)
      ((do
        require (Ordered.find? m.id cat).isNone (StoreError.alreadyExists m.id)
        return (m, Ordered.insert m.id m cat)).map onDocuments) := by
  have hinsert : Acts tables cat.documents (do Command.insert m.id m.document; return m) _ :=
    (acts_insert m.id m.document).bind_pure fun _ => m
  rw [Documents.insert, Catalog.get?_documents, Option.isSome_map] at hinsert
  cases hm : Ordered.find? m.id cat with
  | some old => rwa [hm] at hinsert
  | none =>
    rw [hm, Catalog.documents, ← Ordered.mapValues_insert] at hinsert
    exact hinsert

theorem acts_create (now : Time.Instant) (fresh : String) (metric : Metric) :
    Acts tables cat.documents (c.create now fresh metric)
      ((cat.create tables c now fresh metric).map onDocuments) := by
  unfold Caller.create Catalog.create
  simp only [map_bind_except]
  refine (reads_require _ _).bind_acts fun _ _ => ?_
  refine (reads_guardAccess_one _ _).bind_acts fun _ _ => ?_
  refine (reads_check _ _).bind_acts fun _ _ => ?_
  rw [← map_bind_except]
  exact acts_insert_metric
    { Caller.withId fresh metric with dateCreated := some now, dateUpdated := some now }

theorem acts_replace_metric {old : Metric} (m : Metric) (hold : Ordered.find? m.id cat = some old) :
    Acts tables cat.documents (do Command.replace m.id m.document; return m)
      (.ok (onDocuments (m, Ordered.insert m.id m cat))) := by
  have hreplace : Acts tables cat.documents (do Command.replace m.id m.document; return m) _ :=
    (acts_replace m.id m.document).bind_pure fun _ => m
  rw [Documents.replace, Catalog.get?_documents, hold, Catalog.documents,
    ← Ordered.mapValues_insert] at hreplace
  exact hreplace

theorem acts_update (hcat : cat.Sound) (now : Time.Instant) (id : String) (metric : Metric) :
    Acts tables cat.documents (c.update now id metric)
      ((cat.update tables c now id metric).map onDocuments) := by
  unfold Caller.update Catalog.update
  simp only [map_bind_except]
  refine (reads_loadExisting hcat id).bind_acts fun old hold => ?_
  refine (reads_require _ _).bind_acts fun _ _ => ?_
  refine (reads_require _ _).bind_acts fun _ _ => ?_
  refine (reads_guardAccess_two _ _ _).bind_acts fun _ _ => ?_
  refine (reads_check _ _).bind_acts fun _ _ => ?_
  have hfind := Catalog.exists_of_requireSome hold
  obtain rfl := hcat.id_eq id old hfind
  exact acts_replace_metric
    { metric with id := old.id, dateCreated := old.dateCreated, dateUpdated := some now } hfind

theorem acts_delete (hcat : cat.Sound) (id : String) :
    Acts tables cat.documents (c.delete id)
      ((cat.delete c id).map fun cat' => onDocuments ((), cat')) := by
  unfold Caller.delete Catalog.delete
  simp only [map_bind_except]
  refine (reads_loadExisting hcat id).bind_acts fun old hold => ?_
  refine (reads_require _ _).bind_acts fun _ _ => ?_
  refine (reads_guardAccess_one _ _).bind_acts fun _ _ => ?_
  have hremove : Acts tables cat.documents (do let _ ← Command.remove id; return ()) _ :=
    (acts_remove id).bind_pure fun _ => ()
  rw [Documents.remove, Catalog.documents, ← Ordered.mapValues_erase] at hremove
  exact hremove

/-! ## Calls -/

/-- What a repository does at a call. -/
def Caller.perform (c : Caller) : StoreCall → Command StoreAnswer
  | .create now fresh metric => return .metric (← c.create now fresh metric)
  | .update now id metric => return .metric (← c.update now id metric)
  | .delete id => do c.delete id; return .done
  | .get id => return .found (← c.get id)
  | .list => return .all (← c.list)

theorem acts_answer {α : Type} {x : Command α} {y : Except StoreError (α × Catalog)}
    (hx : Acts tables cat.documents x (y.map onDocuments)) (g : α → StoreAnswer) :
    Acts tables cat.documents (do return g (← x))
      ((y.map fun p => (g p.1, p.2)).map onDocuments) := by
  have hg := hx.bind_pure g
  cases y <;> exact hg

/-- **A repository over the documents of a catalogue answers any call as the catalogue does**, and
leaves the documents of the catalogue after the call. -/
theorem Caller.acts_perform (c : Caller) (hcat : cat.Sound) (call : StoreCall) :
    Acts tables cat.documents (c.perform call) ((cat.answer tables c call).map onDocuments) := by
  cases call with
  | create now fresh metric => exact acts_answer (acts_create now fresh metric) .metric
  | update now id metric => exact acts_answer (acts_update hcat now id metric) .metric
  | delete id =>
    have hdelete : Acts tables cat.documents (c.perform (.delete id)) _ :=
      (acts_delete hcat id).bind_pure fun _ => StoreAnswer.done
    rw [Catalog.answer]
    cases hcases : cat.delete c id <;> rwa [hcases] at hdelete
  | get id =>
    have hget : Reads tables cat.documents (c.get id) _ :=
      (reads_load hcat id).bind_ok (reads_pure _)
    exact hget.acts.bind_pure StoreAnswer.found
  | list => exact (reads_list_documents hcat).acts.bind_pure StoreAnswer.all

end ExperimentQuery
