import ExperimentQuery.Proofs.Store.Writes

/-!
# Two requests at once

Two requests run over one store, each in a repository of it, and their calls take turns in any
order. While a request has a write ahead, the other one may write too, once.

* `Race`, `Race.start`, `Race.step`, `Race.after`: the requests with the store, and their turns;
* `Race.next?`, `Race.trace`: the call that a request makes next, and the calls made so far;
* `writes_step`, `writes_after`: a bound on the writes of a request stays one;
* `after_of_silent`, **`after_cases`**: what the other request does to the documents while a request
  has a write ahead.
-/

namespace ExperimentQuery

/-- Two requests over one store, with what is left of each. -/
structure Race where
  store : SharedStore
  pending : Bool → Request (Except StoreError PublicAnswer)

namespace Race

variable (sources : Nat → FactSource) (callers : Nat → Caller) (repository : Bool → Nat)

/-- Two requests before their first calls. -/
def start (s : SharedStore) (calls : Bool → PublicCall) : Race :=
  ⟨s, fun who => ((callers (repository who)).respond (calls who)).run⟩

/-- The turn of one request: its next call is made, in its repository. -/
def step (r : Race) (who : Bool) : Race :=
  let i := repository who
  let (rest, state) :=
    (r.pending who).step (sources i) ⟨r.store.documents, r.store.sessions i⟩
  { store := ⟨state.documents, fun j => if j = i then state.session else r.store.sessions j⟩
    pending := fun other => if other = who then rest else r.pending other }

/-- The requests after some turns. -/
def after (r : Race) (turns : List Bool) : Race := turns.foldl (step sources repository) r

/-- The call on a document that a request makes next. -/
def next? (r : Race) (who : Bool) : Option DocumentCall := (r.pending who).first?

/-- The calls on documents during some turns, with who made them. -/
def trace (r : Race) : List Bool → List (Bool × DocumentCall)
  | [] => []
  | who :: turns =>
    (r.next? who).toList.map (Prod.mk who) ++ (r.step sources repository who).trace turns

variable {sources repository} {r : Race} {who other : Bool} {turns : List Bool} {w : Write}
  {call : DocumentCall} {allowed allowed' : Write → Prop} {n : Nat}

/-! ## One turn -/

theorem pending_step_self : (r.step sources repository who).pending who =
    ((r.pending who).step (sources (repository who))
      ⟨r.store.documents, r.store.sessions (repository who)⟩).1 := if_pos rfl

theorem pending_step_of_ne (h : other ≠ who) :
    (r.step sources repository who).pending other = r.pending other := if_neg h

theorem documents_step_of_write (h : r.next? who = some (.write w)) :
    (r.step sources repository who).store.documents = w.apply r.store.documents :=
  Request.step_documents_of_write h

theorem documents_step_of_not_write (h : ∀ w, r.next? who ≠ some (.write w)) :
    (r.step sources repository who).store.documents = r.store.documents :=
  Request.step_documents_of_not_write h

theorem writes_step (h : (r.pending other).Writes allowed n) :
    ((r.step sources repository who).pending other).Writes allowed n := by
  by_cases hwho : other = who
  · subst hwho
    rw [pending_step_self]
    exact h.step
  · rwa [pending_step_of_ne hwho]

theorem writes_step_of_write (h : (r.pending who).Writes allowed (n + 1))
    (hw : r.next? who = some (.write w)) :
    ((r.step sources repository who).pending who).Writes allowed n := by
  rw [pending_step_self]
  exact h.step_of_first hw

/-! ## Turns -/

theorem writes_after (h : (r.pending other).Writes allowed n) :
    ((r.after sources repository turns).pending other).Writes allowed n := by
  induction turns generalizing r with
  | nil => exact h
  | cons who turns ih => exact ih (writes_step h)

theorem after_append (ts us : List Bool) : r.after sources repository (ts ++ us) =
    (r.after sources repository ts).after sources repository us := List.foldl_append

theorem trace_append (ts us : List Bool) :
    r.trace sources repository (ts ++ us) = r.trace sources repository ts ++
      (r.after sources repository ts).trace sources repository us := by
  induction ts generalizing r with
  | nil => rfl
  | cons who ts ih =>
    rw [List.cons_append, trace, ih, trace, List.append_assoc]
    rfl

theorem mem_trace_cons : (other, call) ∈ r.trace sources repository (who :: turns) ↔
    other = who ∧ r.next? who = some call ∨
      (other, call) ∈ (r.step sources repository who).trace sources repository turns := by
  simp [trace, eq_comm, and_comm]

theorem pending_after_of_not_mem (h : who ∉ turns) :
    (r.after sources repository turns).pending who = r.pending who := by
  induction turns generalizing r with
  | nil => rfl
  | cons t turns ih =>
    obtain ⟨hne, hturns⟩ := not_or.1 (List.mem_cons.not.1 h)
    exact (ih hturns).trans (pending_step_of_ne hne)

theorem not_mem_trace (h : who ∉ turns) : (who, call) ∉ r.trace sources repository turns := by
  induction turns generalizing r with
  | nil => exact List.not_mem_nil
  | cons t turns ih =>
    obtain ⟨hne, hturns⟩ := not_or.1 (List.mem_cons.not.1 h)
    exact fun hmem => (mem_trace_cons.1 hmem).elim (fun hcall => hne hcall.1) (ih hturns)

/-! ## A write ahead -/

theorem not_write_of_ahead (hwho : (r.pending who).Writes allowed 1)
    (hend : ((r.step sources repository who).after sources repository turns).next? who =
      some (.write w)) (x : Write) : r.next? who ≠ some (.write x) :=
  fun hx => (writes_after (writes_step_of_write hwho hx)).not_first w hend

/-- While a request has its write ahead and the other one has none, the documents stay. -/
theorem after_of_silent (hwho : (r.pending who).Writes allowed 1)
    (hother : (r.pending !who).Writes allowed' 0)
    (hend : (r.after sources repository turns).next? who = some (.write w)) :
    (r.after sources repository turns).store.documents = r.store.documents ∧
      ∀ x, (!who, .write x) ∉ r.trace sources repository turns := by
  induction turns generalizing r with
  | nil => exact ⟨rfl, fun x => List.not_mem_nil⟩
  | cons t turns ih =>
    have hquiet : ∀ x, r.next? t ≠ some (.write x) := by
      intro x
      by_cases ht : t = who
      · subst ht
        exact not_write_of_ahead hwho hend x
      · obtain rfl : t = !who := Bool.eq_not_of_ne ht
        exact hother.not_first x
    obtain ⟨hdocuments, htrace⟩ := ih (writes_step hwho) (writes_step hother) hend
    refine ⟨hdocuments.trans (documents_step_of_not_write hquiet), fun x hx => ?_⟩
    exact (mem_trace_cons.1 hx).elim (fun hcall => hquiet x hcall.2) (htrace x)

/-- **While a request has its write ahead, the other one writes once or not at all**, and nothing
else happens to the documents. -/
theorem after_cases (hwho : (r.pending who).Writes allowed 1)
    (hother : (r.pending !who).Writes allowed' 1)
    (hend : (r.after sources repository turns).next? who = some (.write w)) :
    ((r.after sources repository turns).store.documents = r.store.documents ∧
        ∀ x, (!who, .write x) ∉ r.trace sources repository turns) ∨
      ∃ x, allowed' x ∧
        (r.after sources repository turns).store.documents = x.apply r.store.documents ∧
        ∀ y, (!who, .write y) ∈ r.trace sources repository turns ↔ y = x := by
  induction turns generalizing r with
  | nil => exact .inl ⟨rfl, fun x => List.not_mem_nil⟩
  | cons t turns ih =>
    by_cases hwrite : ∃ x, r.next? t = some (.write x)
    · obtain ⟨x, hx⟩ := hwrite
      have hne : t ≠ who := by
        rintro rfl
        exact not_write_of_ahead hwho hend x hx
      obtain rfl : t = !who := Bool.eq_not_of_ne hne
      obtain ⟨hdocuments, htrace⟩ :=
        after_of_silent (writes_step hwho) (writes_step_of_write hother hx) hend
      refine .inr ⟨x, hother.allowed_of_first hx,
        hdocuments.trans (documents_step_of_write hx), fun y => ?_⟩
      rw [mem_trace_cons, or_iff_left (htrace y), and_iff_right rfl, hx]
      simp [eq_comm]
    · have hquiet : ∀ x, r.next? t ≠ some (.write x) := fun x hx => hwrite ⟨x, hx⟩
      have hmem : ∀ x, (!who, DocumentCall.write x) ∈ r.trace sources repository (t :: turns) ↔
          (!who, .write x) ∈ (r.step sources repository t).trace sources repository turns :=
        fun x => mem_trace_cons.trans (or_iff_right fun hx => hquiet x hx.2)
      have hdocuments : (r.step sources repository t).store.documents = r.store.documents :=
        documents_step_of_not_write hquiet
      simp only [hmem, ← hdocuments]
      exact ih (writes_step hwho) (writes_step hother) hend

end Race

end ExperimentQuery
