import ExperimentQuery.Proofs.Store.History
import ExperimentQuery.Proofs.Store.Outcome

/-!
# Protected documents

A store may hold anything at first: documents of any revision, malformed ones, and documents under
keys that are not their ids. Whatever its callers ask, a metric that is managed through the public
interface stays as it is under all other requests, and a metric of other projects is neither
changed nor shown by requests that are limited to some projects.

* `PublicCall`, `PublicAnswer`, `Caller.respond`: all that callers ask, and what they are answered;
* `Caller.MayChange`: the metrics that a caller may change;
* `Documents.Change`, `Change.get?_eq`: what a request may do to the documents;
* `Caller.meets_respond`: every request does no more, and shows only what is within reach;
* `SharedStore.respond`: the store with its sessions, and one request to it;
* **`SharedStore.respond_protects`**: after any requests, the next one leaves protected metrics
  alone.
-/

namespace ExperimentQuery

open Command

/-- What a caller asks of a store: a call, or the public view of a metric. -/
inductive PublicCall where
  | call (c : StoreCall)
  | getApi (id : String)

/-- What a caller is answered. -/
inductive PublicAnswer where
  | answer (a : StoreAnswer)
  | view (v : Option Json)

/-- The metrics in an answer. -/
def StoreAnswer.metrics : StoreAnswer → List Metric
  | .metric m => [m]
  | .found m => m.toList
  | .all ms => ms
  | .done => []

/-- The answer shows this metric, as it is or in its public view. -/
def PublicAnswer.Shows (a : PublicAnswer) (m : Metric) : Prop :=
  match a with
  | .answer a => m ∈ a.metrics
  | .view v => v = some m.toApi

/-- The metric belongs to projects, and to none of these. -/
def Metric.IsOutside (m : Metric) (projects : List String) : Prop :=
  m.projects ≠ [] ∧ ∀ name ∈ m.projects, name ∉ projects

instance (m : Metric) (projects : List String) : Decidable (m.IsOutside projects) :=
  inferInstanceAs (Decidable (_ ∧ _))

theorem Access.allows_projects_iff {m : Metric} {projects : List String} :
    (Access.projects projects).allows m ↔ ¬ m.IsOutside projects := by
  simp [Access.allows, Metric.IsOutside, or_iff_not_imp_left]

/-! ## Changes of documents -/

variable {c : Caller} {ds ds' : Documents} {key : String} {doc : Json} {m : Metric}

/-- The caller may change the metric. -/
def Caller.MayChange (c : Caller) (m : Metric) : Prop :=
  (m.managedBy = .api → c.viaApi) ∧ c.access.allows m

/-- What a request may do to the documents, malformed ones included. -/
inductive Documents.Change (c : Caller) (ds : Documents) : Documents → Prop
  | unchanged : Change c ds ds
  | added (key : String) (doc : Json) (hfree : ds.get? key = none) :
      Change c ds (Ordered.insert key doc ds)
  | replaced (key : String) (doc : Json) (old : Metric) (hold : Caller.IsStored ds key old)
      (hchange : c.MayChange old) : Change c ds (Ordered.insert key doc ds)
  | removed (key : String) (old : Metric) (hold : Caller.IsStored ds key old)
      (hchange : c.MayChange old) : Change c ds (Ordered.erase key ds)

/-- **A document stays as it is unless a metric that the caller may change is read from it.** -/
theorem Documents.Change.get?_eq (h : Change c ds ds') (hdoc : ds.get? key = some doc)
    (hm : ∀ m ∈ Metric.ofStored? doc, ¬ c.MayChange m) : ds'.get? key = some doc := by
  have hother : ∀ {key' old}, Caller.IsStored ds key' old → c.MayChange old → key ≠ key' := by
    rintro key' old ⟨doc', hdoc', hread⟩ hchange rfl
    obtain rfl := Option.some.inj (hdoc.symm.trans hdoc')
    exact hm old hread hchange
  cases h with
  | unchanged => exact hdoc
  | added key' doc' hfree =>
    have hne : key ≠ key' := by
      rintro rfl
      exact nomatch hfree.symm.trans hdoc
    exact (Ordered.find?_update_of_ne hne _ _).trans hdoc
  | replaced key' doc' old hold hchange =>
    exact (Ordered.find?_update_of_ne (hother hold hchange) _ _).trans hdoc
  | removed key' old hold hchange =>
    exact (Ordered.find?_erase_of_ne (hother hold hchange)).trans hdoc

/-! ## Requests -/

section

variable {α β : Type} {source : FactSource} {shows : α → Metric → Prop}

/-- The request changes no more than the caller may, and if it is answered shows only metrics within
reach. -/
def Caller.Respects (c : Caller) (ds : Documents) (shows : α → Metric → Prop)
    (r : Except StoreError α) (ds' : Documents) : Prop :=
  Documents.Change c ds ds' ∧ ∀ a, r = .ok a → ∀ m, shows a m → c.access.allows m

theorem respects_error (e : StoreError) : c.Respects ds shows (.error e) ds :=
  ⟨.unchanged, nofun⟩

theorem Documents.Change.respects (h : Change c ds ds') {a : α}
    (ha : ∀ m, shows a m → c.access.allows m) : c.Respects ds shows (.ok a) ds' :=
  ⟨h, by rintro _ ⟨⟩; exact ha⟩

theorem Command.Observes.respects {x : Command α}
    (hx : Observes source ds x fun a => ∀ m, shows a m → c.access.allows m) :
    Meets source ds x (c.Respects ds shows) := by
  intro s
  obtain ⟨hds, hanswer⟩ := hx s
  refine ⟨?_, hanswer⟩
  rw [hds]
  exact .unchanged

theorem Command.Meets.respond {x : Command α} {g : α → β} {shows' : β → Metric → Prop}
    (hx : Meets source ds x (c.Respects ds shows)) (hg : ∀ a m, shows' (g a) m → shows a m) :
    Meets source ds (x >>= fun a => pure (g a)) (c.Respects ds shows') := by
  refine Meets.bind_pure fun s => ?_
  obtain ⟨hchange, hanswer⟩ := hx s
  refine ⟨hchange, fun b hb m hm => ?_⟩
  obtain ⟨a, ha, rfl⟩ := Catalog.map_eq_ok.mp hb
  exact hanswer a ha m (hg a m hm)

namespace Caller

theorem meets_create (now : Time.Instant) (fresh : String) (metric : Metric) :
    Meets source ds (c.create now fresh metric) (c.Respects ds fun a m => m = a) := by
  refine (observes_ofCheck _).bind_meets respects_error fun _ _ => ?_
  refine (observes_guardAccess _ _).bind_meets respects_error fun _ haccess => ?_
  refine (observes_check _ _).bind_meets respects_error fun _ _ => ?_
  refine Meets.bind_pure (meets_insert (respects_error _) fun hfree => ?_)
  refine (Documents.Change.added _ _ hfree).respects ?_
  rintro _ rfl
  exact haccess (withId fresh metric) List.mem_cons_self

theorem meets_update (now : Time.Instant) (id : String) (metric : Metric) :
    Meets source ds (c.update now id metric) (c.Respects ds fun a m => m = a) := by
  refine (observes_loadExisting id).bind_meets respects_error fun old hold => ?_
  refine (observes_guardManaged old _).bind_meets respects_error fun _ hmanaged => ?_
  refine (observes_ofCheck _).bind_meets respects_error fun _ _ => ?_
  refine (observes_guardAccess _ _).bind_meets respects_error fun _ haccess => ?_
  refine (observes_check _ _).bind_meets respects_error fun _ _ => ?_
  refine Meets.bind_pure (meets_replace (respects_error _) ?_)
  have hchange : c.MayChange old := ⟨hmanaged, haccess old List.mem_cons_self⟩
  refine (Documents.Change.replaced id _ old hold hchange).respects ?_
  rintro _ rfl
  exact haccess { metric with id := old.id } (List.mem_cons_of_mem _ List.mem_cons_self)

theorem meets_delete (id : String) :
    Meets source ds (c.delete id) (c.Respects ds fun _ _ => False) := by
  refine (observes_loadExisting id).bind_meets respects_error fun old hold => ?_
  refine (observes_guardManaged old _).bind_meets respects_error fun _ hmanaged => ?_
  refine (observes_guardAccess _ _).bind_meets respects_error fun _ haccess => ?_
  refine Meets.bind_pure (meets_remove fun taken => ?_)
  have hchange : c.MayChange old := ⟨hmanaged, haccess old List.mem_cons_self⟩
  exact (Documents.Change.removed id old hold hchange).respects fun _ => False.elim

theorem observes_get (id : String) :
    Observes source ds (c.get id) fun found => ∀ m ∈ found, c.access.allows m := by
  refine (observes_load id).bind fun found _ => observes_pure fun m hm => ?_
  exact (Option.mem_filter_iff.mp hm).2

theorem observes_list :
    Observes source ds c.list fun ms => ∀ m ∈ ms, c.access.allows m := by
  have hdecode : ∀ docs : List Json, Observes source ds (docs.mapM decode) fun _ => True := by
    intro docs
    induction docs with
    | nil => exact observes_pure trivial
    | cons doc docs ih =>
      rw [List.mapM_cons]
      exact (observes_decode doc).bind fun _ _ => ih.bind fun _ _ => observes_pure trivial
  refine Command.observes_list.bind fun docs _ => (hdecode docs).bind fun ms _ => ?_
  exact observes_pure fun m hm => (List.mem_filter.mp hm).2

end Caller

end

/-- What a repository does for a caller. -/
def Caller.respond (c : Caller) : PublicCall → Command PublicAnswer
  | .call call => return .answer (← c.perform call)
  | .getApi id => return .view (← c.getApi id)

theorem Metric.projects_eq_of_toApi_eq {m n : Metric} (h : m.toApi = n.toApi) :
    m.projects = n.projects := by
  have hprojects : ∀ k : Metric, k.toApi.get? "projects" = some (.ofStrings k.projects) :=
    fun _ => rfl
  have hlists := (hprojects m).symm.trans (h ▸ hprojects n)
  simp only [Json.ofStrings, Option.some.injEq, Json.arr.injEq] at hlists
  exact List.map_injective_iff.mpr (fun _ _ => Json.str.inj) hlists

/-- **Every request changes no more than the caller may, and shows only what is within reach.** -/
theorem Caller.meets_respond (source : FactSource) (ds : Documents) (c : Caller)
    (call : PublicCall) :
    Meets source ds (c.respond call) (c.Respects ds PublicAnswer.Shows) := by
  have hperform : ∀ call : StoreCall,
      Meets source ds (c.perform call) (c.Respects ds fun a m => m ∈ a.metrics) := by
    intro call
    cases call with
    | create now fresh metric =>
      exact (meets_create now fresh metric).respond fun _ _ => List.mem_singleton.mp
    | update now id metric =>
      exact (meets_update now id metric).respond fun _ _ => List.mem_singleton.mp
    | delete id => exact (meets_delete id).respond fun _ _ => List.not_mem_nil
    | get id => exact (observes_get id).respects.respond fun _ _ => Option.mem_toList.mp
    | list => exact observes_list.respects.respond fun _ _ => id
  cases call with
  | call call => exact (hperform call).respond fun _ _ => id
  | getApi id =>
    have hview : Observes source ds (c.getApi id)
        fun v => ∀ m, v = some m.toApi → c.access.allows m := by
      refine (observes_get id).bind fun found hfound => observes_pure fun m hm => ?_
      obtain ⟨n, hn, hview⟩ := Option.map_eq_some_iff.mp hm
      have hprojects := Metric.projects_eq_of_toApi_eq hview
      have hreach := hfound n hn
      unfold Access.allows at *
      rwa [← hprojects]
    exact hview.respects.respond fun _ _ h => h

/-! ## Histories -/

namespace SharedStore

variable (sources : Nat → FactSource) (callers : Nat → Caller)

/-- The answer of a repository to a request, and the store after it; every repository has a caller,
a source and a session of its own. -/
def respond (s : SharedStore) (call : Nat × PublicCall) :
    Except StoreError PublicAnswer × SharedStore :=
  let (answer, state) :=
    ((callers call.1).respond call.2).run.run (sources call.1) ⟨s.documents, s.sessions call.1⟩
  (answer, ⟨state.documents, fun i => if i = call.1 then state.session else s.sessions i⟩)

/-- The store after some requests. -/
def afterRequests (s : SharedStore) (calls : List (Nat × PublicCall)) : SharedStore :=
  (serveAll (respond sources callers) s calls).2

variable {sources callers} {s : SharedStore}

variable (sources callers) in
theorem respects_respond (s : SharedStore) (call : Nat × PublicCall) :
    (callers call.1).Respects s.documents PublicAnswer.Shows (s.respond sources callers call).1
      (s.respond sources callers call).2.documents :=
  Caller.meets_respond (sources call.1) s.documents (callers call.1) call.2 (s.sessions call.1)

/-- A document stays as it is while none of the callers may change a metric read from it. -/
theorem get?_afterRequests {calls : List (Nat × PublicCall)}
    (hcalls : ∀ call ∈ calls, ∀ m ∈ Metric.ofStored? doc, ¬ (callers call.1).MayChange m)
    (hdoc : s.documents.get? key = some doc) :
    (s.afterRequests sources callers calls).documents.get? key = some doc := by
  induction calls generalizing s with
  | nil => exact hdoc
  | cons call calls ih =>
    obtain ⟨hcall, hcalls⟩ := List.forall_mem_cons.mp hcalls
    exact ih hcalls ((respects_respond sources callers s call).1.get?_eq hdoc hcall)

/-- **After any requests to a store of any documents, the next one leaves protected metrics alone.**
A caller that does not come in through the public interface leaves the metrics that it manages, and
one that is limited to some projects leaves those of other projects and is not shown them. Both leave
a document from which no metric can be read. -/
theorem respond_protects (sources : Nat → FactSource) (callers : Nat → Caller) (s : SharedStore)
    (calls : List (Nat × PublicCall)) :
    let reached := s.afterRequests sources callers calls
    (∀ call key doc, reached.documents.get? key = some doc →
      let left := (reached.respond sources callers call).2.documents.get? key
      ((callers call.1).viaApi = false → (∀ m ∈ Metric.ofStored? doc, m.managedBy = .api) →
          left = some doc) ∧
        ∀ projects, (callers call.1).access = .projects projects →
          (∀ m ∈ Metric.ofStored? doc, m.IsOutside projects) → left = some doc) ∧
      (∀ call projects a m, (callers call.1).access = .projects projects →
        (reached.respond sources callers call).1 = .ok a → a.Shows m → ¬ m.IsOutside projects) ∧
      ∀ key doc, s.documents.get? key = some doc →
        (∀ call ∈ calls, ∀ m ∈ Metric.ofStored? doc, ¬ (callers call.1).MayChange m) →
        reached.documents.get? key = some doc := by
  intro reached
  refine ⟨fun call key doc hdoc => ?_, fun call projects a m haccess ha hm => ?_,
    fun key doc hdoc hcalls => get?_afterRequests hcalls hdoc⟩
  · have hkept := (respects_respond sources callers reached call).1.get?_eq hdoc
    refine ⟨fun hcaller hapi => hkept fun m hm hchange => ?_,
      fun projects haccess houtside => hkept fun m hm hchange => ?_⟩
    · exact Bool.false_ne_true (hcaller.symm.trans (hchange.1 (hapi m hm)))
    · have hreach := hchange.2
      rw [haccess] at hreach
      exact Access.allows_projects_iff.mp hreach (houtside m hm)
  · have hreach := (respects_respond sources callers reached call).2 a ha m hm
    rw [haccess] at hreach
    exact Access.allows_projects_iff.mp hreach

/-- A document of an earlier revision on a metric of another project. -/
def billsDocument : Json :=
  .obj [("id", .str "fact__bills"), ("name", .str "Bills"), ("datasource", .str "ds_1"),
    ("metricType", .str "count"), ("events", .str "bill"),
    ("numerator", .obj [("factTableId", .str "bills")]), ("projects", .ofStrings ["billing"]),
    ("capping", .str "absolute"), ("capValue", .ofFloat 99.0)]

/-- The metric on sales under its id, and the one on bills under another key. -/
def guardedStore : SharedStore where
  documents := .ofList [("fact__sales", salesMetric.document), ("bills", billsDocument)]

/-- All callers are limited to a project on growth, and the first is not on the public interface. -/
def guardedCallers (i : Nat) : Caller := { viaApi := i ≠ 0, access := .projects ["growth"] }

/-- Two callers ask for metrics to be removed that they must leave. -/
def guardedCalls : List (Nat × PublicCall) :=
  [(0, .call (.delete "fact__sales")), (1, .call (.delete "bills"))]

theorem respond_protects_bills :
    let noTables : Nat → FactSource := fun _ _ => .ok []
    let reached := guardedStore.afterRequests noTables guardedCallers guardedCalls
    reached.documents.get? "bills" = some billsDocument ∧
      (reached.respond noTables guardedCallers (0, .call (.delete "fact__sales"))).2.documents.get?
          "fact__sales" = some salesMetric.document ∧
      (reached.respond noTables guardedCallers (1, .call (.delete "bills"))).2.documents.get?
          "bills" = some billsDocument ∧
      (reached.respond noTables guardedCallers (1, .call .list)).1 =
          .ok (.answer (.all [salesMetric])) ∧
        ¬ salesMetric.IsOutside ["growth"] := by
  intro noTables reached
  obtain ⟨hleft, hshown, hkept⟩ :=
    respond_protects noTables guardedCallers guardedStore guardedCalls
  have hsales : ∀ m ∈ Metric.ofStored? salesMetric.document, m.managedBy = .api := by
    intro m hm
    obtain rfl := Option.some.inj hm
    rfl
  have hbills : ∀ m ∈ Metric.ofStored? billsDocument, m.IsOutside ["growth"] := by
    intro m hm
    obtain rfl := Option.some.inj hm
    decide
  have hlimited : ∀ i, ∀ m ∈ Metric.ofStored? billsDocument, ¬ (guardedCallers i).MayChange m :=
    fun i m hm hchange => Access.allows_projects_iff.mp hchange.2 (hbills m hm)
  exact ⟨hkept "bills" _ rfl fun call _ => hlimited call.1,
    (hleft (0, _) "fact__sales" _ rfl).1 rfl hsales,
    (hleft (1, _) "bills" _ rfl).2 ["growth"] rfl hbills, rfl,
    hshown (1, .call .list) ["growth"] _ salesMetric rfl rfl List.mem_cons_self⟩

end SharedStore

end ExperimentQuery
