import ExperimentQuery.Store.Request

/-!
# Requests that run alone

Over a source that always yields the same tables the session of a repository makes no difference.
A request is then known by what it answers, and by the documents it leaves.

* `Session.IsFor`: a session that has these tables, if any;
* `Command.exec`: a request that runs alone over such a source;
* `Command.Reads`: a request that answers and leaves the documents as they are;
* `Command.Acts`: a request that answers and leaves other documents, or fails and leaves them;
* `reads_get`, `reads_check`, …, `acts_insert`, …: the calls;
* **`Reads.bind_ok`**, **`Reads.bind_acts`**: one request after the other.
-/

namespace ExperimentQuery

variable {α β : Type} {tables : FactTables}

/-! ## Sessions -/

/-- The session has fetched these tables, or none yet. -/
def Session.IsFor (tables : FactTables) (s : Session) : Prop :=
  s.fetched = none ∨ s.fetched = some tables

theorem Session.exists_check {s : Session} (hs : s.IsFor tables) (m : Metric)
    (features : List PremiumFeature) :
    ∃ s', s'.IsFor tables ∧
      s.check (fun _ => .ok tables) m features = ((m.check tables features).mapError .invalid, s') := by
  have htables : ∃ s', s'.IsFor tables ∧ s.tables (fun _ => .ok tables) = (.ok tables, s') := by
    unfold Session.tables
    rcases hs with hs | hs <;> rw [hs]
    · exact ⟨_, .inr rfl, rfl⟩
    · exact ⟨s, .inr hs, rfl⟩
  obtain ⟨s', hs', htables⟩ := htables
  refine ⟨s', hs', ?_⟩
  unfold Session.check
  rw [htables]
  cases hcheck : m.check tables features <;> simp only [hcheck] <;> rfl

/-! ## Programs -/

theorem Request.bind_done (x : Request α) : x.bind .done = x := by
  induction x with
  | done a => rfl
  | get id next ih => exact congrArg (Request.get id) (funext ih)
  | insert id doc next ih => exact congrArg (Request.insert id doc) (funext ih)
  | replace id doc next ih => exact congrArg (Request.replace id doc) (funext ih)
  | remove id next ih => exact congrArg (Request.remove id) (funext ih)
  | list next ih => exact congrArg Request.list (funext ih)
  | check m features next ih => exact congrArg (Request.check m features) (funext ih)

theorem Request.bind_bind {γ : Type} (x : Request α) (f : α → Request β) (g : β → Request γ) :
    (x.bind f).bind g = x.bind fun a => (f a).bind g := by
  induction x with
  | done a => rfl
  | get id next ih => exact congrArg (Request.get id) (funext ih)
  | insert id doc next ih => exact congrArg (Request.insert id doc) (funext ih)
  | replace id doc next ih => exact congrArg (Request.replace id doc) (funext ih)
  | remove id next ih => exact congrArg (Request.remove id) (funext ih)
  | list next ih => exact congrArg Request.list (funext ih)
  | check m features next ih => exact congrArg (Request.check m features) (funext ih)

instance : LawfulMonad Request :=
  LawfulMonad.mk' Request Request.bind_done (fun _ _ => rfl) Request.bind_bind

theorem Request.run_bind (source : FactSource) (s : StoreState) (x : Request α)
    (f : α → Request β) :
    (x >>= f).run source s = (f (x.run source s).1).run source (x.run source s).2 := by
  change (x.bind f).run source s = _
  induction x generalizing s with
  | done a => rfl
  | get id next ih => exact ih _ s
  | insert id doc next ih => exact ih _ _
  | replace id doc next ih => exact ih _ _
  | remove id next ih => exact ih _ _
  | list next ih => exact ih _ s
  | check m features next ih => exact ih _ _

/-! ## Running -/

namespace Command

/-- A request that runs alone over a source of these tables. -/
def exec (tables : FactTables) (s : StoreState) (x : Command α) :
    Except StoreError α × StoreState :=
  x.run.run (fun _ => .ok tables) s

variable {ds : Documents} {s s' : StoreState} {x : Command α} {f : α → Command β}

theorem exec_bind_of_ok {a : α} (h : x.exec tables s = (.ok a, s')) :
    (x >>= f).exec tables s = (f a).exec tables s' := by
  unfold exec at *
  rw [ExceptT.run_bind, Request.run_bind, h]

theorem exec_bind_of_error {e : StoreError} (h : x.exec tables s = (.error e, s')) :
    (x >>= f).exec tables s = (.error e, s') := by
  unfold exec at *
  rw [ExceptT.run_bind, Request.run_bind, h]
  rfl

/-- Whatever the session, the request gives this answer and leaves the documents as they are. -/
def Reads (tables : FactTables) (ds : Documents) (x : Command α) (y : Except StoreError α) :
    Prop :=
  ∀ s : Session, s.IsFor tables →
    ∃ s', s'.IsFor tables ∧ x.exec tables ⟨ds, s⟩ = (y, ⟨ds, s'⟩)

/-- Whatever the session, the request gives this answer and leaves these documents; if it fails it
leaves the documents as they are. -/
def Acts (tables : FactTables) (ds : Documents) (x : Command α)
    (y : Except StoreError (α × Documents)) : Prop :=
  ∀ s : Session, s.IsFor tables →
    ∃ s', s'.IsFor tables ∧
      x.exec tables ⟨ds, s⟩ = (y.map (·.1), ⟨(y.toOption.map (·.2)).getD ds, s'⟩)

/-! ## One request after the other -/

/-- **A request that only reads, and another one for its answer.** -/
theorem Reads.bind_ok {a : α} {y : Except StoreError β} (hx : Reads tables ds x (.ok a))
    (hf : Reads tables ds (f a) y) : Reads tables ds (x >>= f) y := by
  intro s hs
  obtain ⟨s', hs', hexec⟩ := hx s hs
  rw [exec_bind_of_ok hexec]
  exact hf s' hs'

/-- **A request that only reads, and one that acts for its answer.** -/
theorem Reads.bind_acts {y : Except StoreError α} {z : α → Except StoreError (β × Documents)}
    (hx : Reads tables ds x y) (hf : ∀ a, y = .ok a → Acts tables ds (f a) (z a)) :
    Acts tables ds (x >>= f) (y >>= z) := by
  intro s hs
  obtain ⟨s', hs', hexec⟩ := hx s hs
  cases y with
  | error e => exact ⟨s', hs', exec_bind_of_error hexec⟩
  | ok a =>
    rw [exec_bind_of_ok hexec]
    exact hf a rfl s' hs'

theorem Acts.bind_pure {y : Except StoreError (α × Documents)} (hx : Acts tables ds x y)
    (g : α → β) : Acts tables ds (x >>= fun a => pure (g a)) (y.map fun p => (g p.1, p.2)) := by
  intro s hs
  obtain ⟨s', hs', hexec⟩ := hx s hs
  refine ⟨s', hs', ?_⟩
  cases y with
  | error e => exact exec_bind_of_error hexec
  | ok p =>
    rw [exec_bind_of_ok hexec]
    rfl

theorem Reads.acts {y : Except StoreError α} (hx : Reads tables ds x y) :
    Acts tables ds x (y.map fun a => (a, ds)) := by
  intro s hs
  obtain ⟨s', hs', hexec⟩ := hx s hs
  refine ⟨s', hs', hexec.trans ?_⟩
  cases y <;> rfl

/-! ## Calls -/

theorem reads_pure (a : α) : Reads tables ds (pure a) (.ok a) := fun s hs => ⟨s, hs, rfl⟩

theorem reads_throw (e : StoreError) : Reads tables ds (throw e : Command α) (.error e) :=
  fun s hs => ⟨s, hs, rfl⟩

theorem reads_get (id : String) : Reads tables ds (Command.get id) (.ok (ds.get? id)) :=
  fun s hs => ⟨s, hs, rfl⟩

theorem reads_list : Reads tables ds Command.list (.ok ds.list) := fun s hs => ⟨s, hs, rfl⟩

theorem reads_ofCheck (x : Except ValidationError α) :
    Reads tables ds (Command.ofCheck x) (x.mapError .invalid) := by
  cases x with
  | ok a => exact reads_pure a
  | error e => exact reads_throw _

theorem reads_check (m : Metric) (features : List PremiumFeature) :
    Reads tables ds (Command.check m features) ((m.check tables features).mapError .invalid) := by
  intro s hs
  obtain ⟨s', hs', hcheck⟩ := Session.exists_check hs m features
  refine ⟨s', hs', ?_⟩
  change Request.run _ _ (.check m features _) = _
  rw [Request.run, hcheck]
  cases m.check tables features <;> rfl

theorem acts_insert (id : String) (doc : Json) :
    Acts tables ds (Command.insert id doc) ((ds.insert id doc).map fun ds' => ((), ds')) := by
  intro s hs
  refine ⟨s, hs, ?_⟩
  change Request.run _ _ (.insert id doc _) = _
  rw [Request.run]
  dsimp only
  cases ds.insert id doc <;> rfl

theorem acts_replace (id : String) (doc : Json) :
    Acts tables ds (Command.replace id doc) ((ds.replace id doc).map fun ds' => ((), ds')) := by
  intro s hs
  refine ⟨s, hs, ?_⟩
  change Request.run _ _ (.replace id doc _) = _
  rw [Request.run]
  dsimp only
  cases ds.replace id doc <;> rfl

theorem acts_remove (id : String) :
    Acts tables ds (Command.remove id) (.ok (ds.remove id)) := fun s hs => ⟨s, hs, rfl⟩

end Command

end ExperimentQuery
