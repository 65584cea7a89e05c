import ExperimentQuery.Store.Documents
import ExperimentQuery.Validation.Session

/-!
# Requests on a store

A request is a program of calls, each of which acts on the store at once. Between two calls of one
request the store may serve other requests; a request that runs alone makes its calls one after the
other.

* `StoreState`: the documents and the session of a repository;
* `Request`: a program of calls; it is a monad;
* `Request.step`: the first call of a request made;
* **`Request.run`**: a request that runs alone;
* `Command`: a request that may fail.
-/

namespace ExperimentQuery

/-- The documents of a store and the session in which metrics are checked. -/
structure StoreState where
  documents : Documents := []
  session : Session := {}

/-- A program of calls on a store. -/
inductive Request (α : Type) where
  | done (result : α)
  | get (id : String) (next : Option Json → Request α)
  | insert (id : String) (doc : Json) (next : Except StoreError Unit → Request α)
  | replace (id : String) (doc : Json) (next : Except StoreError Unit → Request α)
  | remove (id : String) (next : Bool → Request α)
  | list (next : List Json → Request α)
  | check (m : Metric) (features : List PremiumFeature)
      (next : Except SessionError Unit → Request α)

namespace Request

variable {α β : Type}

/-- A program followed by another one. -/
def bind : Request α → (α → Request β) → Request β
  | done a, f => f a
  | get id next, f => get id fun r => (next r).bind f
  | insert id doc next, f => insert id doc fun r => (next r).bind f
  | replace id doc next, f => replace id doc fun r => (next r).bind f
  | remove id next, f => remove id fun r => (next r).bind f
  | list next, f => list fun r => (next r).bind f
  | check m features next, f => check m features fun r => (next r).bind f

instance : Monad Request where
  pure := done
  bind := bind

/-- The outcome of a write, and the documents after it. -/
def written (s : StoreState) : Except StoreError Documents → Except StoreError Unit × StoreState
  | .ok ds => (.ok (), { s with documents := ds })
  | .error e => (.error e, s)

/-- **The first call of a request made**; a request that is done stays so. -/
def step (source : FactSource) (s : StoreState) : Request α → Request α × StoreState
  | done a => (done a, s)
  | get id next => (next (s.documents.get? id), s)
  | insert id doc next =>
    let (r, s) := written s (s.documents.insert id doc)
    (next r, s)
  | replace id doc next =>
    let (r, s) := written s (s.documents.replace id doc)
    (next r, s)
  | remove id next =>
    let (r, ds) := s.documents.remove id
    (next r, { s with documents := ds })
  | list next => (next s.documents.list, s)
  | check m features next =>
    let (r, session) := s.session.check source m features
    (next r, { s with session })

/-- **The result of a request that runs alone**, and the state after it. -/
def run (source : FactSource) (s : StoreState) : Request α → α × StoreState
  | done a => (a, s)
  | get id next => (next (s.documents.get? id)).run source s
  | insert id doc next =>
    let (r, s) := written s (s.documents.insert id doc)
    (next r).run source s
  | replace id doc next =>
    let (r, s) := written s (s.documents.replace id doc)
    (next r).run source s
  | remove id next =>
    let (r, ds) := s.documents.remove id
    (next r).run source { s with documents := ds }
  | list next => (next s.documents.list).run source s
  | check m features next =>
    let (r, session) := s.session.check source m features
    (next r).run source { s with session }

end Request

/-- A request that may fail. -/
abbrev Command (α : Type) := ExceptT StoreError Request α

namespace Command

/-- The document of a key. -/
def get (id : String) : Command (Option Json) := ExceptT.lift (.get id .done)

/-- A new document stored. -/
def insert (id : String) (doc : Json) : Command Unit := ExceptT.mk (.insert id doc .done)

/-- A document replaced. -/
def replace (id : String) (doc : Json) : Command Unit := ExceptT.mk (.replace id doc .done)

/-- A document removed, if it is there. -/
def remove (id : String) : Command Bool := ExceptT.lift (.remove id .done)

/-- All documents in the order of their keys. -/
def list : Command (List Json) := ExceptT.lift (.list .done)

/-- The checks of a metric. -/
def check (m : Metric) (features : List PremiumFeature) : Command Unit :=
  ExceptT.mk (.check m features fun
    | .ok () => .done (.ok ())
    | .error (.invalid e) => .done (.error (.invalid e))
    | .error (.fetch reason) => .done (.error (.backend reason)))

/-- The outcome of a check that needs no store. -/
def ofCheck {α : Type} : Except ValidationError α → Command α
  | .ok a => pure a
  | .error e => throw (.invalid e)

end Command

end ExperimentQuery
