import ExperimentQuery.Validation.Basic

/-!
# Validation with fetched tables

A session fetches the fact tables when it first needs them and keeps them. A fetch that fails is
tried again by the next check.

* `FactSource`: what each fetch yields;
* `Session`, `Session.tables`: the state, and the tables in it;
* **`Session.check`**: the checks of a metric in a session.
-/

namespace ExperimentQuery

/-- What a source of fact tables yields: for the fetch of each number, counted from zero, the tables
or the reason of a failure. -/
abbrev FactSource := Nat → Except String FactTables

/-- The number of fetches so far, and the tables of the first one that succeeded. -/
structure Session where
  fetches : Nat := 0
  fetched : Option FactTables := none

/-- Why a check in a session fails. -/
inductive SessionError where
  | invalid (e : ValidationError)
  | fetch (reason : String)
  deriving Repr

/-- What is said about a failure. -/
def SessionError.message : SessionError → String
  | .invalid e => e.message
  | .fetch reason => "failed to load fact tables: " ++ reason

namespace Session

/-- The tables of a session, fetched when there are none yet. -/
def tables (source : FactSource) (s : Session) : Except String FactTables × Session :=
  match s.fetched with
  | some ts => (.ok ts, s)
  | none =>
    match source s.fetches with
    | .ok ts => (.ok ts, ⟨s.fetches + 1, some ts⟩)
    | .error reason => (.error reason, ⟨s.fetches + 1, none⟩)

/-- **The checks of a metric** with the tables of a session. -/
def check (source : FactSource) (s : Session) (m : Metric) (features : List PremiumFeature) :
    Except SessionError Unit × Session :=
  match s.tables source with
  | (.ok ts, s) =>
    match m.check ts features with
    | .ok () => (.ok (), s)
    | .error e => (.error (.invalid e), s)
  | (.error reason, s) => (.error (.fetch reason), s)

end Session

end ExperimentQuery
