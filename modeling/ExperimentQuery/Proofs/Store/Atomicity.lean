import ExperimentQuery.Proofs.Store.Protection

/-!
# Requests act as a whole or not at all

A request that fails leaves the documents as they are, wherever it fails and whatever the documents
and the source of tables are. One that is answered sets or removes the document of one key, which
is known before it runs, and leaves all others alone.

* `StoreCall.target?`: the key that a call is about to change;
* `StoreAnswer.document?`: the document that it leaves there;
* `Command.Settles`: what a request may leave;
* `settles_create`, `settles_update`, `settles_delete`: the calls that write;
* **`Caller.respond_settles`**: every request.
-/

namespace ExperimentQuery

open Command

/-- The key whose document a call is about to change, if it is to change one; that of a new metric
is its id, its own or one made of fresh text. -/
def StoreCall.target? : StoreCall → Option String
  | .create _ fresh metric => some (Caller.withId fresh metric).id
  | .update _ id _ => some id
  | .delete id => some id
  | .get _ => none
  | .list => none

/-- The key whose document a request is about to change, if it is to change one. -/
def PublicCall.target? : PublicCall → Option String
  | .call stored => stored.target?
  | .getApi _ => none

/-- The document that a call leaves under the key it changes: that of the metric in its answer, and
none after a removal. -/
def StoreAnswer.document? : StoreAnswer → Option Json
  | .metric m => some m.document
  | _ => none

/-- The document that a request leaves under the key it changes. -/
def PublicAnswer.document? : PublicAnswer → Option Json
  | .answer a => a.document?
  | .view _ => none

variable {α β : Type} {source : FactSource} {ds ds' : Documents} {c : Caller}
  {target : Option String} {written : α → Option Json}

/-! ## What a request may leave -/

/-- A request that fails leaves the documents as they are. One that is answered changes the document
of its target, if it has one, and no other. -/
structure Command.Settles (target : Option String) (written : α → Option Json) (ds : Documents)
    (r : Except StoreError α) (ds' : Documents) : Prop where
  failed : ∀ e, r = .error e → ds' = ds
  answered : ∀ a, r = .ok a → ∀ key,
    ds'.get? key = if target = some key then written a else ds.get? key
  untargeted : target = none → ds' = ds

theorem settles_error (e : StoreError) : Settles target written ds (.error e) ds :=
  ⟨fun _ _ => rfl, nofun, fun _ => rfl⟩

theorem settles_insert {id : String} {doc : Json} {a : α} (h : written a = some doc) :
    Settles (some id) written ds (.ok a) (Ordered.insert id doc ds) := by
  refine ⟨nofun, ?_, nofun⟩
  rintro _ ⟨⟩ key
  by_cases hkey : id = key
  · rw [if_pos (congrArg some hkey), h, ← hkey]
    exact Ordered.find?_insert_self id doc ds
  · rw [if_neg (hkey ∘ Option.some.inj)]
    exact Ordered.find?_update_of_ne (Ne.symm hkey) _ ds

theorem settles_erase {id : String} {a : α} (h : written a = none) :
    Settles (some id) written ds (.ok a) (Ordered.erase id ds) := by
  refine ⟨nofun, ?_, nofun⟩
  rintro _ ⟨⟩ key
  by_cases hkey : id = key
  · rw [if_pos (congrArg some hkey), h, ← hkey]
    exact Ordered.find?_erase_self id ds
  · rw [if_neg (hkey ∘ Option.some.inj)]
    exact Ordered.find?_erase_of_ne (Ne.symm hkey)

theorem Command.Observes.settles {x : Command α} {R : α → Prop} (hx : Observes source ds x R) :
    Meets source ds x (Settles none written ds) := by
  intro s
  obtain ⟨hds, -⟩ := hx s
  refine ⟨fun _ _ => hds, fun _ _ key => ?_, fun _ => hds⟩
  rw [if_neg nofun, hds]

theorem Command.Meets.settle {x : Command α} {g : α → β} {written' : β → Option Json}
    (hx : Meets source ds x (Settles target written ds)) (hg : ∀ a, written' (g a) = written a) :
    Meets source ds (x >>= fun a => pure (g a)) (Settles target written' ds) := by
  refine Meets.bind_pure fun s => ?_
  obtain ⟨hfailed, hanswered, huntargeted⟩ := hx s
  generalize x.run.run source ⟨ds, s⟩ = outcome at hfailed hanswered huntargeted ⊢
  obtain ⟨r | a, left⟩ := outcome
  · exact ⟨fun _ _ => hfailed r rfl, nofun, huntargeted⟩
  · refine ⟨nofun, ?_, huntargeted⟩
    rintro _ ⟨⟩ key
    rw [hg]
    exact hanswered a rfl key

/-! ## Calls -/

namespace Caller

theorem settles_create (now : Time.Instant) (fresh : String) (metric : Metric) :
    Meets source ds (c.create now fresh metric)
      (Settles (some (withId fresh metric).id) (fun m => some m.document) ds) := by
  refine (observes_ofCheck _).bind_meets settles_error fun _ _ => ?_
  refine (observes_guardAccess _ _).bind_meets settles_error fun _ _ => ?_
  refine (observes_check _ _).bind_meets settles_error fun _ _ => ?_
  exact Meets.bind_pure (meets_insert (settles_error _) fun _ => settles_insert rfl)

theorem settles_update (now : Time.Instant) (id : String) (metric : Metric) :
    Meets source ds (c.update now id metric)
      (Settles (some id) (fun m => some m.document) ds) := by
  refine (observes_loadExisting id).bind_meets settles_error fun old _ => ?_
  refine (observes_guardManaged old _).bind_meets settles_error fun _ _ => ?_
  refine (observes_ofCheck _).bind_meets settles_error fun _ _ => ?_
  refine (observes_guardAccess _ _).bind_meets settles_error fun _ _ => ?_
  refine (observes_check _ _).bind_meets settles_error fun _ _ => ?_
  exact Meets.bind_pure (meets_replace (settles_error _) (settles_insert rfl))

theorem settles_delete (id : String) :
    Meets source ds (c.delete id) (Settles (some id) (fun _ => none) ds) := by
  refine (observes_loadExisting id).bind_meets settles_error fun old _ => ?_
  refine (observes_guardManaged old _).bind_meets settles_error fun _ _ => ?_
  refine (observes_guardAccess _ _).bind_meets settles_error fun _ _ => ?_
  exact Meets.bind_pure (meets_remove fun _ => settles_erase rfl)

theorem settles_perform (call : StoreCall) :
    Meets source ds (c.perform call) (Settles call.target? StoreAnswer.document? ds) := by
  cases call with
  | create now fresh metric => exact (settles_create now fresh metric).settle fun _ => rfl
  | update now id metric => exact (settles_update now id metric).settle fun _ => rfl
  | delete id => exact (settles_delete id).settle fun _ => rfl
  | get id => exact (observes_get id).settles.settle fun _ => rfl
  | list => exact observes_list.settles.settle fun _ => rfl

/-- **Every request acts as a whole or not at all.** Whatever the store holds and whatever its source
yields, a request that fails leaves the documents as they are, and so does one that only asks. One
that is answered leaves under its key the document of the metric in its answer, or none after a
removal, and every other key as it was. -/
theorem respond_settles (source : FactSource) (c : Caller) (s : StoreState) (call : PublicCall) :
    let outcome := (c.respond call).run.run source s
    (∀ e, outcome.1 = .error e → outcome.2.documents = s.documents) ∧
      (call.target? = none → outcome.2.documents = s.documents) ∧
      ∀ a, outcome.1 = .ok a → ∀ key, outcome.2.documents.get? key =
        if call.target? = some key then a.document? else s.documents.get? key := by
  intro outcome
  have hrespond : Meets source s.documents (c.respond call)
      (Settles call.target? PublicAnswer.document? s.documents) := by
    cases call with
    | call call => exact (settles_perform call).settle fun _ => rfl
    | getApi id =>
      have hview : Observes source s.documents (c.getApi id) fun _ => True :=
        (observes_get id).bind fun _ _ => observes_pure trivial
      exact hview.settles.settle fun _ => rfl
  obtain ⟨hfailed, hanswered, huntargeted⟩ := hrespond s.session
  exact ⟨hfailed, huntargeted, hanswered⟩

/-- A store with a metric under a key that is not its id and a document that is none. -/
def unsoundState : StoreState where
  documents := .ofList [("bills", SharedStore.billsDocument), ("note", .str "to do")]

theorem respond_settles_bills :
    let noTables : FactSource := fun _ => .error "unavailable"
    let caller : Caller := {}
    let listing := (caller.respond (.call .list)).run.run noTables unsoundState
    let removal := (caller.respond (.call (.delete "bills"))).run.run noTables unsoundState
    listing.1 = .error .malformed ∧ listing.2.documents = unsoundState.documents ∧
      removal.1 = .ok (.answer .done) ∧ removal.2.documents.get? "bills" = none ∧
      removal.2.documents.get? "note" = some (.str "to do") := by
  intro noTables caller listing removal
  obtain ⟨hlisting, -, -⟩ := respond_settles noTables caller unsoundState (.call .list)
  obtain ⟨-, -, hremoval⟩ := respond_settles noTables caller unsoundState (.call (.delete "bills"))
  have hdone : removal.1 = .ok (.answer .done) := rfl
  exact ⟨rfl, hlisting .malformed rfl, hdone, hremoval _ hdone "bills", hremoval _ hdone "note"⟩

end Caller

end ExperimentQuery
