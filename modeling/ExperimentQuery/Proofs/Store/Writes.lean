import ExperimentQuery.Proofs.Store.Protection

/-!
# Writes of requests

Between the calls of one request the store may serve others, so what it answers may be anything.
Whatever it answers, a request writes at most once, and what it may write depends on what it was
asked and on the document that it read before.

* `Write`, `Write.apply`, `Write.get?_apply`: the calls that write, and what they leave;
* `DocumentCall`, `Request.first?`: the call that a request makes next;
* **`Request.Writes`**: a bound on what a request writes, whatever it is answered;
* `Writes.bind`, `Writes.step`, `Writes.step_of_first`: one request after the other, and one call;
* `PublicCall.MayWrite`, **`Caller.writes_respond`**: the one write of every request;
* `Request.Guarded`, **`Caller.guarded_respond`**: a request that overwrites a document has read an
  unmanaged metric from it.
-/

namespace ExperimentQuery

variable {α β : Type}

/-! ## Calls that write -/

/-- A call that writes. -/
inductive Write where
  | insert (id : String) (doc : Json)
  | replace (id : String) (doc : Json)
  | remove (id : String)

/-- The key whose document a call takes away, if it takes one. -/
def Write.overwritten? : Write → Option String
  | insert _ _ => none
  | replace id _ => some id
  | remove id => some id

/-- The documents after a call; one that fails leaves them. -/
def Write.apply (ds : Documents) : Write → Documents
  | insert id doc => (ds.insert id doc).toOption.getD ds
  | replace id doc => (ds.replace id doc).toOption.getD ds
  | remove id => (ds.remove id).2

/-- The document that a call leaves in place of another one. -/
def Write.leaves (key : String) (doc : Json) : Write → Option Json
  | insert _ _ => some doc
  | replace id doc' => if key = id then some doc' else some doc
  | remove id => if key = id then none else some doc

theorem Write.get?_apply {ds : Documents} {key : String} {doc : Json}
    (hdoc : ds.get? key = some doc) (w : Write) : (w.apply ds).get? key = w.leaves key doc := by
  cases w with
  | insert id doc' =>
    rw [apply, Documents.insert, leaves]
    split
    · exact hdoc
    · rename_i hfree
      have hne : key ≠ id := by
        rintro rfl
        exact hfree (by rw [hdoc]; rfl)
      exact (Ordered.find?_update_of_ne hne _ _).trans hdoc
  | replace id doc' =>
    rw [apply, Documents.replace, leaves]
    by_cases hkey : key = id
    · subst hkey
      rw [hdoc, if_pos rfl]
      exact Ordered.find?_insert_self _ _ _
    · rw [if_neg hkey]
      split
      · exact (Ordered.find?_update_of_ne hkey _ _).trans hdoc
      · exact hdoc
  | remove id =>
    rw [apply, Documents.remove, leaves]
    split
    · rename_i hkey
      subst hkey
      exact Ordered.find?_erase_self _ _
    · rename_i hkey
      exact (Ordered.find?_erase_of_ne hkey).trans hdoc

/-- A call on the document of one key. -/
inductive DocumentCall where
  | get (id : String)
  | write (w : Write)

namespace Request

/-- The call on a document that a request makes next. -/
def first? : Request α → Option DocumentCall
  | get id _ => some (.get id)
  | insert id doc _ => some (.write (.insert id doc))
  | replace id doc _ => some (.write (.replace id doc))
  | remove id _ => some (.write (.remove id))
  | done _ | list _ | check _ _ _ => none

variable {source : FactSource} {s : StoreState} {x : Request α} {w : Write}

theorem step_documents_of_write (h : x.first? = some (.write w)) :
    (x.step source s).2.documents = w.apply s.documents := by
  cases x with
  | insert id doc next =>
    cases h
    rw [step, Write.apply]
    cases s.documents.insert id doc <;> rfl
  | replace id doc next =>
    cases h
    rw [step, Write.apply]
    cases s.documents.replace id doc <;> rfl
  | remove id next => cases h; rfl
  | done _ | get _ _ | list _ | check _ _ _ => simp [first?] at h

theorem step_documents_of_not_write (h : ∀ w, x.first? ≠ some (.write w)) :
    (x.step source s).2.documents = s.documents := by
  cases x with
  | insert id doc next => exact absurd rfl (h _)
  | replace id doc next => exact absurd rfl (h _)
  | remove id next => exact absurd rfl (h _)
  | done _ | get _ _ | list _ | check _ _ _ => rfl

/-! ## A bound on writes -/

/-- **Whatever a request is answered, it writes at most `n` times, and only what is allowed.** -/
inductive Writes (allowed : Write → Prop) : Nat → Request α → Prop
  | done {n : Nat} (a : α) : Writes allowed n (done a)
  | get {n : Nat} {id : String} {next : Option Json → Request α} :
    (∀ r, Writes allowed n (next r)) → Writes allowed n (get id next)
  | insert {n : Nat} {id : String} {doc : Json} {next : Except StoreError Unit → Request α} :
    allowed (.insert id doc) → (∀ r, Writes allowed n (next r)) →
      Writes allowed (n + 1) (insert id doc next)
  | replace {n : Nat} {id : String} {doc : Json} {next : Except StoreError Unit → Request α} :
    allowed (.replace id doc) → (∀ r, Writes allowed n (next r)) →
      Writes allowed (n + 1) (replace id doc next)
  | remove {n : Nat} {id : String} {next : Bool → Request α} :
    allowed (.remove id) → (∀ r, Writes allowed n (next r)) →
      Writes allowed (n + 1) (remove id next)
  | list {n : Nat} {next : List Json → Request α} :
    (∀ r, Writes allowed n (next r)) → Writes allowed n (list next)
  | check {n : Nat} {m : Metric} {features : List PremiumFeature}
    {next : Except SessionError Unit → Request α} :
    (∀ r, Writes allowed n (next r)) → Writes allowed n (check m features next)

variable {allowed allowed' : Write → Prop} {n m : Nat}

theorem Writes.mono (hx : x.Writes allowed n) (himp : ∀ w, allowed w → allowed' w) (hle : n ≤ m) :
    x.Writes allowed' m := by
  induction hx generalizing m with
  | done a => exact .done a
  | get _ ih => exact .get fun r => ih r hle
  | list _ ih => exact .list fun r => ih r hle
  | check _ ih => exact .check fun r => ih r hle
  | insert hw _ ih =>
    obtain ⟨k, rfl⟩ := Nat.exists_eq_add_of_lt hle
    exact .insert (himp _ hw) fun r => ih r (Nat.le_add_right _ k)
  | replace hw _ ih =>
    obtain ⟨k, rfl⟩ := Nat.exists_eq_add_of_lt hle
    exact .replace (himp _ hw) fun r => ih r (Nat.le_add_right _ k)
  | remove hw _ ih =>
    obtain ⟨k, rfl⟩ := Nat.exists_eq_add_of_lt hle
    exact .remove (himp _ hw) fun r => ih r (Nat.le_add_right _ k)

theorem Writes.bind {f : α → Request β} (hx : x.Writes allowed m)
    (hf : ∀ a, (f a).Writes allowed n) : (x.bind f).Writes allowed (n + m) := by
  induction hx with
  | done a => exact (hf a).mono (fun _ => id) (Nat.le_add_right _ _)
  | get _ ih => exact .get ih
  | list _ ih => exact .list ih
  | check _ ih => exact .check ih
  | insert hw _ ih => exact .insert hw ih
  | replace hw _ ih => exact .replace hw ih
  | remove hw _ ih => exact .remove hw ih

/-! ## One call -/

theorem Writes.step (hx : x.Writes allowed n) : (x.step source s).1.Writes allowed n := by
  cases hx with
  | done a => exact .done a
  | get hnext | list hnext | check hnext => exact hnext _
  | insert _ hnext | replace _ hnext | remove _ hnext =>
    exact (hnext _).mono (fun _ => id) (Nat.le_succ _)

theorem Writes.allowed_of_first (hx : x.Writes allowed n) (hw : x.first? = some (.write w)) :
    allowed w := by
  cases hx with
  | done | get | list | check => simp [first?] at hw
  | insert hallowed _ | replace hallowed _ | remove hallowed _ =>
    cases hw
    exact hallowed

theorem Writes.step_of_first (hx : x.Writes allowed (n + 1)) (hw : x.first? = some (.write w)) :
    (x.step source s).1.Writes allowed n := by
  cases hx with
  | done | get | list | check => simp [first?] at hw
  | insert _ hnext | replace _ hnext | remove _ hnext => exact hnext _

theorem Writes.not_first (hx : x.Writes allowed 0) (w : Write) : x.first? ≠ some (.write w) := by
  cases hx <;> simp [first?]

end Request

/-! ## Commands -/

namespace Command

/-- Whatever the command is answered, it writes at most `n` times, and only what is allowed. -/
def Writes (allowed : Write → Prop) (n : Nat) (x : Command α) : Prop := x.run.Writes allowed n

variable {allowed : Write → Prop} {n : Nat} {x : Command α} {f : α → Command β}

/-- **A command that writes nothing, and another one for its answer.** -/
theorem Writes.bind (hx : Writes allowed 0 x) (hf : ∀ a, Writes allowed n (f a)) :
    Writes allowed n (x >>= f) := by
  rw [Writes, ExceptT.run_bind]
  refine Request.Writes.bind (n := n) hx fun r => ?_
  cases r with
  | ok a => exact hf a
  | error e => exact .done _

theorem Writes.bind_pure (hx : Writes allowed n x) (g : α → β) :
    Writes allowed n (x >>= fun a => pure (g a)) := by
  rw [Writes, ExceptT.run_bind, ← Nat.zero_add n]
  refine Request.Writes.bind hx fun r => ?_
  cases r <;> exact .done _

theorem writes_pure (a : α) : Writes allowed n (pure a) := .done _

theorem writes_throw (e : StoreError) : Writes allowed n (throw e : Command α) := .done _

theorem writes_get (id : String) : Writes allowed n (Command.get id) := .get fun _ => .done _

theorem writes_list : Writes allowed n Command.list := .list fun _ => .done _

theorem writes_ofCheck (r : Except ValidationError α) : Writes allowed n (Command.ofCheck r) := by
  cases r <;> exact .done _

theorem writes_check (m : Metric) (features : List PremiumFeature) :
    Writes allowed n (Command.check m features) := by
  refine .check fun r => ?_
  rcases r with (e | reason) | _ <;> exact .done _

theorem writes_insert {id : String} {doc : Json} (h : allowed (.insert id doc)) :
    Writes allowed 1 (Command.insert id doc) := .insert h fun _ => .done _

theorem writes_replace {id : String} {doc : Json} (h : allowed (.replace id doc)) :
    Writes allowed 1 (Command.replace id doc) := .replace h fun _ => .done _

theorem writes_remove {id : String} (h : allowed (.remove id)) :
    Writes allowed 1 (Command.remove id) := .remove h fun _ => .done _

end Command

/-! ## Calls of a repository -/

open Command

namespace Caller

variable {allowed : Write → Prop} {n : Nat} {c : Caller}

theorem writes_decode (doc : Json) : Writes allowed n (decode doc) := by
  unfold decode
  split
  · exact writes_pure _
  · exact writes_throw _

theorem writes_load (id : String) : Writes allowed n (load id) := by
  refine (writes_get id).bind fun found => ?_
  cases found with
  | none => exact writes_pure none
  | some doc => exact (writes_decode doc).bind_pure some

theorem writes_loadExisting (id : String) : Writes allowed n (loadExisting id) := by
  refine (writes_load id).bind fun found => ?_
  cases found with
  | none => exact writes_throw _
  | some m => exact writes_pure m

/-- What follows the guard of managed metrics may rely on it. -/
theorem writes_guardManaged_bind {m : Metric} {action : StoreAction} {f : Unit → Command α}
    (hf : (m.managedBy = .api → c.viaApi) → Writes allowed n (f ())) :
    Writes allowed n (c.guardManaged m action >>= f) := by
  unfold guardManaged
  cases hguard : require (m.managedBy ≠ .api || c.viaApi) (ValidationError.managedByApi action) with
  | error e => exact writes_throw _
  | ok a =>
    refine hf fun hmanaged => ?_
    simpa [hmanaged] using require_eq_ok.mp hguard

theorem writes_guardAccess (action : StoreAction) (ms : List Metric) :
    Writes allowed n (c.guardAccess action ms) := by
  unfold guardAccess
  split
  · exact writes_pure ()
  · exact writes_throw _

theorem writes_create {now : Time.Instant} {fresh : String} {metric : Metric}
    (h : ∀ id doc, allowed (.insert id doc)) :
    Writes allowed 1 (c.create now fresh metric) := by
  refine (writes_ofCheck _).bind fun _ => ?_
  refine (writes_guardAccess _ _).bind fun _ => ?_
  refine (writes_check _ _).bind fun _ => ?_
  exact (writes_insert (h _ _)).bind_pure _

theorem writes_get (id : String) : Writes allowed n (c.get id) := (writes_load id).bind_pure _

theorem writes_list : Writes allowed n c.list := by
  have hdecode : ∀ docs : List Json, Writes allowed n (docs.mapM decode) := by
    intro docs
    induction docs with
    | nil => exact writes_pure []
    | cons doc docs ih =>
      rw [List.mapM_cons]
      exact (writes_decode doc).bind fun _ => ih.bind_pure _
  exact Command.writes_list.bind fun docs => (hdecode docs).bind_pure _

end Caller

/-! ## Commands that load a metric first -/

/-- The command loads the metric of a key. After that it writes at most once, and only what is
allowed for the metric that it found. -/
def Command.LoadsFirst (id : String) (allowed : Metric → Write → Prop) (x : Command α) : Prop :=
  ∃ f, x = Caller.loadExisting id >>= f ∧ ∀ m, Writes (allowed m) 1 (f m)

namespace Command.LoadsFirst

variable {id : String} {allowed : Metric → Write → Prop} {x : Command α}

theorem bind_pure (hx : LoadsFirst id allowed x) (g : α → β) :
    LoadsFirst id allowed (x >>= fun a => pure (g a)) := by
  obtain ⟨f, rfl, hf⟩ := hx
  exact ⟨_, bind_assoc _ _ _, fun m => (hf m).bind_pure g⟩

theorem writes (hx : LoadsFirst id allowed x) {allowed' : Write → Prop}
    (himp : ∀ m w, allowed m w → allowed' w) : Writes allowed' 1 x := by
  obtain ⟨f, rfl, hf⟩ := hx
  exact (Caller.writes_loadExisting id).bind fun m => (hf m).mono (himp m) (Nat.le_refl 1)

end Command.LoadsFirst

namespace Caller

variable {c : Caller}

theorem loadsFirst_update (now : Time.Instant) (id : String) (metric : Metric) :
    LoadsFirst id (fun m w => (m.managedBy = .api → c.viaApi) ∧ ∃ doc, w = .replace id doc)
      (c.update now id metric) := by
  refine ⟨_, rfl, fun m => writes_guardManaged_bind fun hmanaged => ?_⟩
  refine (writes_ofCheck _).bind fun _ => ?_
  refine (writes_guardAccess _ _).bind fun _ => ?_
  refine (writes_check _ _).bind fun _ => ?_
  exact (writes_replace ⟨hmanaged, _, rfl⟩).bind_pure _

theorem loadsFirst_delete (id : String) :
    LoadsFirst id (fun m w => (m.managedBy = .api → c.viaApi) ∧ w = .remove id) (c.delete id) := by
  refine ⟨_, rfl, fun m => writes_guardManaged_bind fun hmanaged => ?_⟩
  refine (writes_guardAccess _ _).bind fun _ => ?_
  exact (writes_remove ⟨hmanaged, rfl⟩).bind_pure _

end Caller

/-! ## Requests -/

/-- What a request may write: a new document is inserted by a creation alone, one is replaced by an
update of its key, and one is removed by a removal of its key. -/
def PublicCall.MayWrite (call : PublicCall) : Write → Prop
  | .insert _ _ => ∃ now fresh metric, call = .call (.create now fresh metric)
  | .replace id _ => ∃ now metric, call = .call (.update now id metric)
  | .remove id => call = .call (.delete id)

/-- **Every request writes at most once**, and only as it was asked. -/
theorem Caller.writes_respond (c : Caller) (call : PublicCall) :
    Writes call.MayWrite 1 (c.respond call) := by
  cases call with
  | getApi id => exact ((writes_get id).bind_pure _).bind_pure _
  | call stored =>
    refine Writes.bind_pure ?_ _
    cases stored with
    | create now fresh metric =>
      exact (writes_create fun _ _ => ⟨now, fresh, metric, rfl⟩).bind_pure _
    | update now id metric =>
      refine ((loadsFirst_update now id metric).writes fun m w hw => ?_).bind_pure _
      obtain ⟨-, doc, rfl⟩ := hw
      exact ⟨now, metric, rfl⟩
    | delete id =>
      refine ((loadsFirst_delete id).writes fun m w hw => ?_).bind_pure _
      obtain ⟨-, rfl⟩ := hw
      rfl
    | get id => exact (writes_get id).bind_pure _
    | list => exact writes_list.bind_pure _

/-- The request reads the document of a key first. After that it writes at most once: it overwrites
that document, and only if the metric read from it is not managed through the public interface. -/
def Request.Guarded (id : String) (x : Request α) : Prop :=
  ∃ next, x = .get id next ∧ ∀ found, (next found).Writes
    (fun w => w.overwritten? = some id ∧
      ∃ doc m, found = some doc ∧ Metric.ofStored? doc = some m ∧ m.managedBy ≠ .api) 1

/-- What is done with the document of a key: it is read as a metric, which must be there. -/
def Caller.withDocument (id : String) (f : Metric → Command α) : Option Json → Command α
  | none => throw (.notFound id)
  | some doc => decode doc >>= f

theorem Caller.run_loadExisting_bind (id : String) (f : Metric → Command α) :
    (loadExisting id >>= f).run = .get id fun found => (withDocument id f found).run := by
  have hload : loadExisting id >>= f = Command.get id >>= withDocument id f := by
    rw [loadExisting, load, bind_assoc, bind_assoc]
    refine bind_congr fun found => ?_
    cases found with
    | none => rfl
    | some doc => exact bind_assoc _ _ _
  rw [hload]
  rfl

theorem Command.LoadsFirst.guarded {id : String} {allowed : Metric → Write → Prop}
    {x : Command α} (hx : LoadsFirst id allowed x)
    (himp : ∀ m w, allowed m w → w.overwritten? = some id ∧ m.managedBy ≠ .api) :
    x.run.Guarded id := by
  obtain ⟨f, rfl, hf⟩ := hx
  refine ⟨_, Caller.run_loadExisting_bind id f, fun found => ?_⟩
  cases found with
  | none => exact .done _
  | some doc =>
    change Writes _ 1 (Caller.decode doc >>= f)
    unfold Caller.decode
    cases hread : Metric.ofStored? doc with
    | none => exact .done _
    | some m =>
      exact (hf m).mono (fun w hw => ⟨(himp m w hw).1, doc, m, rfl, hread, (himp m w hw).2⟩)
        (Nat.le_refl 1)

/-- **A request that is not through the public interface overwrites a document only if the metric
that it read from it is not managed there.** -/
theorem Caller.guarded_respond {c : Caller} (hc : c.viaApi = false) (call : PublicCall) :
    Writes (fun w => w.overwritten? = none) 1 (c.respond call) ∨
      ∃ id, (c.respond call).run.Guarded id := by
  have hmanaged : ∀ m : Metric, (m.managedBy = .api → c.viaApi) → m.managedBy ≠ .api :=
    fun m h hm => Bool.false_ne_true (hc.symm.trans (h hm))
  cases call with
  | getApi id => exact .inl (((writes_get id).bind_pure _).bind_pure _)
  | call stored =>
    cases stored with
    | create now fresh metric =>
      exact .inl (((writes_create fun _ _ => rfl).bind_pure _).bind_pure _)
    | update now id metric =>
      refine .inr ⟨id, ((loadsFirst_update now id metric).bind_pure _).bind_pure _
        |>.guarded fun m w hw => ?_⟩
      obtain ⟨hguard, doc, rfl⟩ := hw
      exact ⟨rfl, hmanaged m hguard⟩
    | delete id =>
      refine .inr ⟨id, ((loadsFirst_delete id).bind_pure _).bind_pure _
        |>.guarded fun m w hw => ?_⟩
      obtain ⟨hguard, rfl⟩ := hw
      exact ⟨rfl, hmanaged m hguard⟩
    | get id => exact .inl (((writes_get id).bind_pure _).bind_pure _)
    | list => exact .inl ((writes_list.bind_pure _).bind_pure _)

end ExperimentQuery
