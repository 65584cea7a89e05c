import ExperimentQuery.Proofs.Store.Race

/-!
# Managed metrics in a race

A request that is not through the public interface reads a document, makes sure that the metric in
it is not managed there, and overwrites the document later. No call of a store does both at once, so
what was made sure of may no longer hold. It can be undone in one way alone.

* `Json.IsApiManaged`, `Documents.IsApiManaged`: a metric that the public interface manages;
* `Write.isApiManaged_apply`: how a write makes a metric one of those;
* `Race.exists_read`: the call that read the document;
* **`overwrites_managed_iff`**: a request overwrites such a metric if and only if the other request
  is an update that put it there after the document was read;
* `ownership_is_raced`: it does happen.
-/

namespace ExperimentQuery

/-- The document holds a metric that the public interface manages. -/
def Json.IsApiManaged (doc : Json) : Prop :=
  ∃ m, Metric.ofStored? doc = some m ∧ m.managedBy = .api

/-- Under the key stands a metric that the public interface manages. -/
def Documents.IsApiManaged (ds : Documents) (key : String) : Prop :=
  ∃ doc, ds.get? key = some doc ∧ doc.IsApiManaged

theorem Documents.isApiManaged_iff {ds : Documents} {key : String} {doc : Json}
    (hdoc : ds.get? key = some doc) : ds.IsApiManaged key ↔ doc.IsApiManaged := by
  simp [Documents.IsApiManaged, hdoc]

/-- A write puts a managed metric in the place of another one only by replacing it. -/
theorem Write.isApiManaged_apply {ds : Documents} {key : String} {doc : Json}
    (hdoc : ds.get? key = some doc) (hfree : ¬ doc.IsApiManaged) (w : Write) :
    (w.apply ds).IsApiManaged key ↔ ∃ doc', w = .replace key doc' ∧ doc'.IsApiManaged := by
  have hleaves : (w.apply ds).IsApiManaged key ↔
      ∃ doc', w.leaves key doc = some doc' ∧ doc'.IsApiManaged := by
    rw [Documents.IsApiManaged, Write.get?_apply hdoc]
  rw [hleaves]
  cases w with
  | insert id doc' => simp [leaves, hfree]
  | remove id =>
    rw [leaves]
    split <;> simp [hfree]
  | replace id doc' =>
    rw [leaves]
    split
    · rename_i hkey
      simp [hkey]
    · rename_i hkey
      simp [hfree, Ne.symm hkey]

theorem pair_sublist_iff {α : Type} {a b : α} {before after : List α} (h : a ∉ before) :
    [a, b].Sublist (before ++ a :: after) ↔ b ∈ after := by
  constructor
  · intro hsub
    obtain ⟨l₁, l₂, heq, hbefore, hafter⟩ := List.sublist_append_iff.1 hsub
    cases l₁ with
    | nil =>
      rw [List.nil_append] at heq
      exact List.singleton_sublist.1 (List.cons_sublist_cons.1 (heq ▸ hafter))
    | cons c l₁ =>
      obtain ⟨rfl, -⟩ := List.cons.inj heq
      exact absurd (hbefore.subset List.mem_cons_self) h
  · intro hb
    exact ((List.singleton_sublist.2 hb).cons_cons a).trans (List.sublist_append_right _ _)

namespace Race

variable {sources : Nat → FactSource} {repository : Bool → Nat} {who : Bool} {turns : List Bool}
  {w : Write} {id : String}

/-- A guarded request that is about to write has made the call that reads its document. All that it
may write from then on overwrites that document, which holds an unmanaged metric. -/
theorem exists_read {r : Race} (hwho : (r.pending who).Guarded id)
    (hnext : (r.after sources repository turns).next? who = some (.write w)) :
    ∃ before later, turns = before ++ who :: later ∧ who ∉ before ∧
      (r.after sources repository before).next? who = some (.get id) ∧
      let read := (r.after sources repository before).step sources repository who
      (read.pending who).Writes
        (fun w => w.overwritten? = some id ∧ ∃ doc m, read.store.documents.get? id = some doc ∧
          Metric.ofStored? doc = some m ∧ m.managedBy ≠ .api) 1 := by
  obtain ⟨next, hget, hwrites⟩ := hwho
  have hmem : who ∈ turns := by
    by_contra hnot
    rw [next?, pending_after_of_not_mem hnot, hget] at hnext
    exact nomatch hnext
  obtain ⟨before, later, rfl, hbefore⟩ := List.eq_append_cons_of_mem hmem
  have hpending : (r.after sources repository before).pending who = .get id next :=
    (pending_after_of_not_mem hbefore).trans hget
  have hquiet : ∀ w, (r.after sources repository before).next? who ≠ some (.write w) := by
    intro w
    rw [next?, hpending]
    exact nofun
  refine ⟨before, later, rfl, hbefore, by rw [next?, hpending]; rfl, ?_⟩
  intro read
  have hdocuments : read.store.documents = (r.after sources repository before).store.documents :=
    documents_step_of_not_write hquiet
  have hrest : read.pending who =
      next ((r.after sources repository before).store.documents.get? id) := by
    rw [pending_step_self, hpending]
    rfl
  rw [hdocuments, hrest]
  exact hwrites _

/-- A call that comes after the one that read the document is one of the later turns. -/
theorem pair_sublist_trace_iff {r : Race} {before later : List Bool} {other : Bool}
    {call : DocumentCall} (hbefore : who ∉ before)
    (hget : (r.after sources repository before).next? who = some (.get id)) :
    [(who, .get id), (other, call)].Sublist
        (r.trace sources repository (before ++ who :: later)) ↔
      (other, call) ∈ ((r.after sources repository before).step sources repository who).trace
        sources repository later := by
  rw [trace_append, trace, hget]
  exact pair_sublist_iff (not_mem_trace hbefore)

/-- **A request that is not through the public interface is about to overwrite a managed metric if
and only if the other request is an update of the same metric, and has put a managed one in its
place between the call that read the document and this one.** -/
theorem overwrites_managed_iff (sources : Nat → FactSource) (callers : Nat → Caller)
    (repository : Bool → Nat) (s : SharedStore) (calls : Bool → PublicCall) (turns : List Bool)
    (who : Bool) (hcaller : (callers (repository who)).viaApi = false) (w : Write) (key : String)
    (hnext : ((start callers repository s calls).after sources repository turns).next? who =
      some (.write w))
    (hkey : w.overwritten? = some key) :
    let race := start callers repository s calls
    (race.after sources repository turns).store.documents.IsApiManaged key ↔
      (∃ now metric, calls (!who) = .call (.update now key metric)) ∧
        ∃ doc, doc.IsApiManaged ∧
          [(who, .get key), (!who, .write (.replace key doc))].Sublist
            (race.trace sources repository turns) := by
  intro race
  have hother : (race.pending !who).Writes (calls !who).MayWrite 1 := Caller.writes_respond _ _
  rcases Caller.guarded_respond hcaller (calls who) with hnone | ⟨id, hguarded⟩
  · -- a request that overwrites nothing is not about to
    have hpending : (race.pending who).Writes (fun w => w.overwritten? = none) 1 := hnone
    exact nomatch ((writes_after hpending).allowed_of_first hnext).symm.trans hkey
  · obtain ⟨before, later, rfl, hbefore, hget, hwho⟩ := exists_read (r := race) hguarded hnext
    let read := (race.after sources repository before).step sources repository who
    have hafter : race.after sources repository (before ++ who :: later) =
        read.after sources repository later := after_append _ _
    have hend : (read.after sources repository later).next? who = some (.write w) := hafter ▸ hnext
    obtain ⟨hid, doc, m, hdoc, hm, hmanaged⟩ := (writes_after hwho).allowed_of_first hend
    obtain rfl : id = key := Option.some.inj (hid.symm.trans hkey)
    have hfree : ¬ doc.IsApiManaged := by
      rintro ⟨m', hm', hapi⟩
      obtain rfl := Option.some.inj (hm.symm.trans hm')
      exact hmanaged hapi
    simp only [hafter, pair_sublist_trace_iff hbefore hget]
    rcases after_cases hwho (writes_step (writes_after hother)) hend with
      ⟨hsame, hnone⟩ | ⟨x, hmay, hwritten, hx⟩
    · rw [hsame, Documents.isApiManaged_iff hdoc]
      constructor
      · exact fun hapi => absurd hapi hfree
      · rintro ⟨-, doc', -, hmem⟩
        exact absurd hmem (hnone _)
    · rw [hwritten, Write.isApiManaged_apply hdoc hfree]
      constructor
      · rintro ⟨doc', rfl, hdoc'⟩
        exact ⟨hmay, doc', hdoc', (hx _).2 rfl⟩
      · rintro ⟨-, doc', hdoc', hmem⟩
        exact ⟨doc', ((hx _).1 hmem).symm, hdoc'⟩

/-- A document of an earlier revision with the metric on sales, which nobody manages yet. -/
def salesDocument : Json :=
  .obj [("id", .str "fact__sales"), ("name", .str "Sales"), ("datasource", .str "ds_1"),
    ("metricType", .str "count"), ("events", .str "sale"),
    ("numerator", .obj [("factTableId", .str "sales")])]

/-- A store with the metric on sales. -/
def salesStore : SharedStore where
  documents := .ofList [("fact__sales", salesDocument)]

/-- The second of two repositories is for the public interface. -/
def salesCallers (i : Nat) : Caller := { viaApi := i ≠ 0 }

/-- The tables that the metric on sales is over. -/
def salesSources : Nat → FactSource := fun _ _ => .ok [{ id := "sales", datasource := "warehouse" }]

/-- The metric is given another name, while the public interface takes it over. -/
def salesUpdates (who : Bool) : PublicCall :=
  .call (.update ⟨1700000000, 0⟩ "fact__sales"
    (if who then SharedStore.salesMetric
      else { SharedStore.salesMetric with name := "Sales of the year", managedBy := .ui }))

/-- The first request reads and is checked; in between the other one does all it has to do. -/
def takeover : List Bool := [false, true, true, true, false]

/-- The metric on sales as the public interface has stored it. -/
def takenSalesMetric : Metric :=
  { SharedStore.salesMetric with dateUpdated := some ⟨1700000000, 0⟩ }

theorem isApiManaged_takenSalesMetric : takenSalesMetric.document.IsApiManaged := ⟨_, rfl, rfl⟩

theorem overwrites_managed_iff_takeover :
    let race := start salesCallers Bool.toNat salesStore salesUpdates
    let reached := race.after salesSources Bool.toNat takeover
    (salesCallers (Bool.toNat false)).viaApi = false ∧
      ∃ w, reached.next? false = some (.write w) ∧ w.overwritten? = some "fact__sales" ∧
        reached.store.documents.IsApiManaged "fact__sales" := by
  intro race reached
  have hmanaged : reached.store.documents.IsApiManaged "fact__sales" := by
    refine (overwrites_managed_iff salesSources salesCallers Bool.toNat salesStore salesUpdates
      takeover false rfl _ "fact__sales" rfl rfl).2
      ⟨⟨_, _, rfl⟩, takenSalesMetric.document, isApiManaged_takenSalesMetric, ?_⟩
    -- the other request has read the document too, before it wrote
    exact .cons_cons _ (.cons _ (.cons_cons _ .slnil))
  exact ⟨rfl, _, rfl, rfl, hmanaged⟩

/-- **Ownership may be lost in a race**: it is not so that no request but those through the public
interface ever overwrites a metric that is managed there. -/
theorem ownership_is_raced :
    ¬ ∀ (sources : Nat → FactSource) (callers : Nat → Caller) (repository : Bool → Nat)
      (s : SharedStore) (calls : Bool → PublicCall) (turns : List Bool) (who : Bool),
      (callers (repository who)).viaApi = false → ∀ w key,
        ((start callers repository s calls).after sources repository turns).next? who =
          some (.write w) → w.overwritten? = some key →
        ¬ ((start callers repository s calls).after sources repository
          turns).store.documents.IsApiManaged key := by
  intro h
  exact h salesSources salesCallers Bool.toNat salesStore salesUpdates takeover false rfl _
    "fact__sales" rfl rfl ⟨takenSalesMetric.document, rfl, isApiManaged_takenSalesMetric⟩

end Race

end ExperimentQuery
