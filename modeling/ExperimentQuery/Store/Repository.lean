import ExperimentQuery.Metric.Api
import ExperimentQuery.Metric.Revision
import ExperimentQuery.Store.Request

/-!
# Metrics in a store

Metrics are stored as documents by their ids. A document of an earlier revision is upgraded as it is
read. What a caller may do depends on the projects of a metric and on who manages it.

* `Access`, `Caller`: what a caller may see, and who calls;
* `Metric.document`: the document of a metric;
* `Caller.load`: the metric of a key;
* **`Caller.create`**, **`Caller.update`**, **`Caller.delete`**;
* **`Caller.get`**, **`Caller.getApi`**, **`Caller.list`**.
-/

namespace ExperimentQuery

/-- Which metrics a caller may see and change. -/
inductive Access where
  | everything
  | projects (names : List String)
  deriving Repr, DecidableEq

/-- Whether a metric is within reach; one without projects is within everyone's. -/
def Access.allows (a : Access) (m : Metric) : Bool :=
  match a with
  | .everything => true
  | .projects names => m.projects.isEmpty || m.projects.any names.contains

/-- Who makes a request. -/
structure Caller where
  /-- Whether the request comes in through the public interface. -/
  viaApi : Bool := false
  features : List PremiumFeature := []
  access : Access := .everything
  deriving Repr

/-- The document of a metric. -/
def Metric.document (m : Metric) : Json := m.toJson.canonical

namespace Caller

/-- The metric that a document holds. -/
def decode (doc : Json) : Command Metric :=
  match Metric.ofStored? doc with
  | some m => pure m
  | none => throw .malformed

/-- The metric of a key, if there is one. -/
def load (id : String) : Command (Option Metric) := do
  match ← Command.get id with
  | none => return none
  | some doc => return some (← decode doc)

/-- The metric of a key, which must be there. -/
def loadExisting (id : String) : Command Metric := do
  match ← load id with
  | some m => return m
  | none => throw (.notFound id)

/-- A metric that the public interface manages is changed through it only. -/
def guardManaged (c : Caller) (existing : Metric) (action : StoreAction) : Command Unit :=
  .ofCheck (require (existing.managedBy ≠ .api || c.viaApi) (.managedByApi action))

/-- An action on metrics that must all be within reach. -/
def guardAccess (c : Caller) (action : StoreAction) (ms : List Metric) : Command Unit :=
  if ms.all c.access.allows then pure () else throw (.permissionDenied action)

/-- The checks of a metric for a caller. -/
def check (c : Caller) (m : Metric) : Command Unit := Command.check m c.features

/-- A metric with an id: its own, or one made of some fresh text. -/
def withId (fresh : String) (m : Metric) : Metric :=
  if m.id = "" then { m with id := metricIdStart ++ fresh } else m

/-- **A new metric stored**; both of its dates are the present. -/
def create (c : Caller) (now : Time.Instant) (fresh : String) (metric : Metric) :
    Command Metric := do
  let m := withId fresh metric
  Command.ofCheck (checkId m.id)
  c.guardAccess .create [m]
  c.check m
  let m := { m with dateCreated := some now, dateUpdated := some now }
  Command.insert m.id m.document
  return m

/-- **A metric read**; one out of reach is as good as none. -/
def get (c : Caller) (id : String) : Command (Option Metric) := do
  return (← load id).filter c.access.allows

/-- **The public view of a metric.** -/
def getApi (c : Caller) (id : String) : Command (Option Json) := do
  return (← c.get id).map (·.toApi)

/-- **All metrics within reach**, in the order of their keys. -/
def list (c : Caller) : Command (List Metric) := do
  return (← (← Command.list).mapM decode).filter c.access.allows

/-- **A metric replaced**; it keeps its id, its datasource and the date of its creation. -/
def update (c : Caller) (now : Time.Instant) (id : String) (metric : Metric) : Command Metric := do
  let existing ← loadExisting id
  c.guardManaged existing .update
  Command.ofCheck (require (metric.datasource == existing.datasource) (.readonlyField "datasource"))
  let m := { metric with id := existing.id }
  c.guardAccess .update [existing, m]
  c.check m
  let m := { m with dateCreated := existing.dateCreated, dateUpdated := some now }
  Command.replace id m.document
  return m

/-- **A metric removed.** -/
def delete (c : Caller) (id : String) : Command Unit := do
  let existing ← loadExisting id
  c.guardManaged existing .delete
  c.guardAccess .delete [existing]
  let _ ← Command.remove id
  return ()

end Caller

end ExperimentQuery
