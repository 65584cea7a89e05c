import ExperimentQuery.Proofs.Store.Agreement

/-!
# Histories of a store

Any number of repositories share one store, each with a caller and a session of its own. Over a
source that always yields the same tables their callers are answered as a catalogue answers them,
whatever they ask and in whatever order.

* `serveAll`, `serveAll_agrees`: calls one after the other, and two servers that agree;
* `SharedStore`, `SharedStore.serve`: the store with its sessions, and one call to it;
* `SharedStore.Represents`: the store holds the documents of a catalogue;
* **`Represents.serve`**, `represents_serveAll`: one call, and all calls;
* **`SharedStore.serveAll_eq_catalog`**: the answers, and what they mean for the documents.
-/

namespace ExperimentQuery

/-! ## Calls one after the other -/

section

variable {σ τ γ α : Type}

/-- The answers to calls one after the other, and what is left after them. -/
def serveAll (serve : σ → γ → α × σ) : σ → List γ → List α × σ
  | s, [] => ([], s)
  | s, call :: calls =>
    let (answer, s) := serve s call
    let (answers, s) := serveAll serve s calls
    (answer :: answers, s)

/-- Two servers in related states that give the same answers go on giving them. -/
theorem serveAll_agrees {serve : σ → γ → α × σ} {serve' : τ → γ → α × τ} {R : σ → τ → Prop}
    {calls : List γ} (hserve : ∀ call ∈ calls, ∀ s t, R s t →
      (serve s call).1 = (serve' t call).1 ∧ R (serve s call).2 (serve' t call).2)
    {s : σ} {t : τ} (h : R s t) :
    (serveAll serve s calls).1 = (serveAll serve' t calls).1 ∧
      R (serveAll serve s calls).2 (serveAll serve' t calls).2 := by
  induction calls generalizing s t with
  | nil => exact ⟨rfl, h⟩
  | cons call calls ih =>
    obtain ⟨hcall, hcalls⟩ := List.forall_mem_cons.mp hserve
    obtain ⟨hanswer, hnext⟩ := hcall s t h
    obtain ⟨hanswers, hlast⟩ := ih hcalls hnext
    exact ⟨congrArg₂ List.cons hanswer hanswers, hlast⟩

end

/-! ## A shared store -/

/-- The documents of a store, and the session of every repository over it. -/
structure SharedStore where
  documents : Documents := []
  sessions : Nat → Session := fun _ => {}

variable (tables : FactTables) (callers : Nat → Caller)

/-- The answer of a repository to a call, and the store after it. -/
def SharedStore.serve (s : SharedStore) (call : Nat × StoreCall) :
    Except StoreError StoreAnswer × SharedStore :=
  let (answer, state) :=
    ((callers call.1).perform call.2).exec tables ⟨s.documents, s.sessions call.1⟩
  (answer, ⟨state.documents, fun i => if i = call.1 then state.session else s.sessions i⟩)

/-- The answer of a catalogue to a call, and the catalogue after it. -/
def Catalog.serve (cat : Catalog) (call : Nat × StoreCall) :
    Except StoreError StoreAnswer × Catalog :=
  match cat.answer tables (callers call.1) call.2 with
  | .ok (answer, cat') => (.ok answer, cat')
  | .error e => (.error e, cat)

/-- The store holds the documents of the catalogue, and its sessions are over the same tables. -/
structure SharedStore.Represents (s : SharedStore) (cat : Catalog) : Prop where
  sound : cat.Sound
  documents : s.documents = cat.documents
  sessions : ∀ i, (s.sessions i).IsFor tables

variable {tables callers} {s : SharedStore} {cat : Catalog} {call : Nat × StoreCall}

theorem Catalog.change_serve (hcat : cat.Sound) (hcall : call.2.Writable) :
    Change (callers call.1) cat (cat.serve tables callers call).2 := by
  unfold Catalog.serve
  cases hanswer : cat.answer tables (callers call.1) call.2 with
  | error e => exact .unchanged
  | ok p => exact change_answer hcat hcall hanswer

namespace SharedStore

theorem represents_empty : Represents tables {} [] := ⟨Catalog.sound_nil, rfl, fun _ => .inl rfl⟩

/-- **A call to the store is answered by the catalogue**, and the store goes on holding the
documents of the catalogue. -/
theorem Represents.serve (h : s.Represents tables cat) (hcall : call.2.Writable) :
    (s.serve tables callers call).1 = (cat.serve tables callers call).1 ∧
      (s.serve tables callers call).2.Represents tables (cat.serve tables callers call).2 := by
  obtain ⟨session, hsession, hexec⟩ :=
    (callers call.1).acts_perform h.sound call.2 (s.sessions call.1) (h.sessions call.1)
  have hsessions : ∀ i,
      Session.IsFor tables (if i = call.1 then session else s.sessions i) := by
    intro i
    split
    · exact hsession
    · exact h.sessions i
  have hsound : (cat.serve tables callers call).2.Sound :=
    (Catalog.change_serve h.sound hcall).sound h.sound
  rw [← h.documents] at hexec
  unfold SharedStore.serve Catalog.serve at *
  rw [hexec]
  cases hanswer : cat.answer tables (callers call.1) call.2 with
  | error e => exact ⟨rfl, h.sound, h.documents, hsessions⟩
  | ok p =>
    rw [hanswer] at hsound
    exact ⟨rfl, hsound, rfl, hsessions⟩

variable (tables callers) in
theorem represents_serveAll {calls : List (Nat × StoreCall)}
    (hcalls : ∀ call ∈ calls, call.2.Writable) :
    (serveAll (SharedStore.serve tables callers) {} calls).1 =
        (serveAll (Catalog.serve tables callers) [] calls).1 ∧
      (serveAll (SharedStore.serve tables callers) {} calls).2.Represents tables
        (serveAll (Catalog.serve tables callers) [] calls).2 :=
  serveAll_agrees (fun call hcall _ _ h => h.serve (hcalls call hcall)) represents_empty

end SharedStore

/-! ## Keys and documents -/

theorem Text.eq_append_of_stripWord? {word cs rest : List Char}
    (h : Text.stripWord? word cs = some rest) : cs = word ++ rest := by
  induction word generalizing cs with
  | nil => exact Option.some.inj h
  | cons w ws ih =>
    cases cs with
    | nil => exact nomatch h
    | cons c cs =>
      rw [Text.stripWord?] at h
      split at h
      · rename_i heq
        rw [heq, ih h, List.cons_append]
      · exact nomatch h

/-- The text begins as every metric id does, and goes on with letters, digits, dashes and
underscores, one or more of them. -/
def HasIdForm (key : String) : Prop :=
  ∃ rest, key.toList = "fact__".toList ++ rest ∧ rest ≠ [] ∧
    ∀ c ∈ rest, c.isAlphanum ∨ c = '_' ∨ c = '-'

theorem hasIdForm_of_isMetricId {id : String} (h : isMetricId id) : HasIdForm id := by
  unfold isMetricId at h
  split at h
  · rename_i rest hrest
    rw [Bool.and_eq_true, decide_eq_true_eq, List.all_eq_true] at h
    refine ⟨rest, Text.eq_append_of_stripWord? hrest, h.1, fun c hc => ?_⟩
    have hchar := h.2 c hc
    rwa [isIdChar, Bool.or_eq_true, Bool.or_eq_true, beq_iff_eq, beq_iff_eq, or_assoc] at hchar
  · exact nomatch h

theorem Metric.get?_id_document (m : Metric) : m.document.get? "id" = some (.str m.id) := by
  obtain ⟨ms, hms⟩ : ∃ ms, m.toJson = .obj ms := ⟨_, rfl⟩
  have hform : m.document.IsForm (.obj ms) := hms ▸ Json.isForm_canonical m.toJson
  have hid : ms.lookup "id" = some (.str m.id) := by
    cases hms
    rfl
  obtain ⟨members, hdoc, -, hmembers⟩ := Json.exists_members_of_isForm hform
    ((Metric.sublist_fieldNames hms).nodup Metric.nodup_fieldNames)
  obtain ⟨v, hv, rfl | rfl⟩ := hmembers.lookup_of_some hid <;>
  · rw [hdoc]
    exact hv

namespace SharedStore

/-- The metric of a key. -/
def metric? (s : SharedStore) (key : String) : Option Metric :=
  (s.documents.get? key).bind Metric.ofStored?

/-- The store after some calls, empty before them. -/
def after (tables : FactTables) (callers : Nat → Caller) (calls : List (Nat × StoreCall)) :
    SharedStore :=
  (serveAll (SharedStore.serve tables callers) {} calls).2

namespace Represents

variable {key : String} {doc : Json} {m : Metric}

theorem exists_metric (h : s.Represents tables cat) (hdoc : s.documents.get? key = some doc) :
    ∃ m, Ordered.find? key cat = some m ∧ m.document = doc := by
  rw [h.documents, Catalog.get?_documents] at hdoc
  exact Option.map_eq_some_iff.mp hdoc

theorem find?_of_metric? (h : s.Represents tables cat) (hm : s.metric? key = some m) :
    Ordered.find? key cat = some m := by
  obtain ⟨doc, hdoc, hread⟩ := Option.bind_eq_some_iff.mp hm
  obtain ⟨n, hn, rfl⟩ := h.exists_metric hdoc
  rw [Metric.ofStored?_document (h.sound.writable key n hn)] at hread
  rw [hn, hread]

end Represents

/-- **The callers of a store are answered as a catalogue answers them.** So every document stands
under its id, which has the form of one, and a metric that is still there after a call has its
datasource and the date of its creation. -/
theorem serveAll_eq_catalog (tables : FactTables) (callers : Nat → Caller)
    (calls : List (Nat × StoreCall)) (hcalls : ∀ call ∈ calls, call.2.Writable) :
    (serveAll (SharedStore.serve tables callers) {} calls).1 =
        (serveAll (Catalog.serve tables callers) [] calls).1 ∧
      (∀ key doc, (after tables callers calls).documents.get? key = some doc →
        doc.get? "id" = some (.str key) ∧ HasIdForm key) ∧
      ∀ call : Nat × StoreCall, call.2.Writable →
        ∀ key m m', (after tables callers calls).metric? key = some m →
          (((after tables callers calls).serve tables callers call).2).metric? key = some m' →
          m'.datasource = m.datasource ∧ m'.dateCreated = m.dateCreated := by
  obtain ⟨hanswers, hstore⟩ := represents_serveAll tables callers hcalls
  refine ⟨hanswers, fun key doc hdoc => ?_, fun call hcall key m m' hm hm' => ?_⟩
  · obtain ⟨m, hm, rfl⟩ := hstore.exists_metric hdoc
    rw [Metric.get?_id_document, hstore.sound.id_eq key m hm]
    exact ⟨rfl, hasIdForm_of_isMetricId (hstore.sound.isMetricId key m hm)⟩
  · have hchange : Catalog.Change (callers call.1) _ (Catalog.serve tables callers _ call).2 :=
      Catalog.change_serve hstore.sound hcall
    have hnext : (SharedStore.serve tables callers _ call).2.Represents tables _ :=
      (hstore.serve hcall).2
    exact hchange.keeps (hstore.find?_of_metric? hm) (hnext.find?_of_metric? hm')

/-- A metric on sales that is managed through the public interface. -/
def salesMetric : Metric :=
  { id := "fact__sales"
    name := "Sales"
    datasource := "ds_1"
    kind := .count
    events := "sale"
    numerator := { factTable := "sales" }
    managedBy := .api }

/-- The metric is made through the public interface, and then asked for and removed without it. -/
def salesCalls : List (Nat × StoreCall) :=
  [(0, .create ⟨1700000000, 0⟩ "" salesMetric), (1, .get "fact__sales"),
    (1, .delete "fact__sales")]

theorem serveAll_eq_catalog_sales :
    (∀ call ∈ salesCalls, call.2.Writable) ∧
      ∃ m, (serveAll (SharedStore.serve [{ id := "sales", datasource := "warehouse" }]
          fun i => { viaApi := i = 0 }) {} salesCalls).1 =
        [.ok (.metric m), .ok (.found (some m)), .error (.invalid (.managedByApi .delete))] := by
  have hnow : Time.Instant.Valid ⟨1700000000, 0⟩ := ⟨by decide, by decide, by decide⟩
  have hnumbers : salesMetric.FiniteNumbers :=
    ⟨by decide, by decide, by decide, by decide, by decide, nofun, by decide, by decide,
      by decide, by decide, by decide, by decide⟩
  have hcalls : ∀ call ∈ salesCalls, call.2.Writable := by
    rintro call (_ | ⟨_, _ | ⟨_, _ | ⟨_, ⟨⟩⟩⟩⟩)
    · exact ⟨hnow, hnumbers⟩
    · trivial
    · trivial
  exact ⟨hcalls, _, (serveAll_eq_catalog _ _ _ hcalls).1.trans rfl⟩

end SharedStore

end ExperimentQuery
