import ExperimentQuery.Json.Basic
import ExperimentQuery.Validation.Basic

/-!
# Stored documents

Documents are kept by key, the keys in order.

* `StoreError`, `StoreError.message`: why a request on a store fails;
* `Documents.get?`, `Documents.insert`, `Documents.replace`, `Documents.remove`, `Documents.list`.
-/

namespace ExperimentQuery

/-- Why a request on a store of metrics fails. -/
inductive StoreError where
  | notFound (id : String)
  | alreadyExists (id : String)
  | permissionDenied (action : StoreAction)
  | invalid (e : ValidationError)
  | malformed
  | backend (reason : String)
  deriving Repr

/-- What is said about a failure. -/
def StoreError.message : StoreError → String
  | .notFound id => "metric '" ++ id ++ "' not found"
  | .alreadyExists id => "metric '" ++ id ++ "' already exists"
  | .permissionDenied action => "permission denied: cannot " ++ action.name ++ " metric"
  | .invalid e => e.message
  | .malformed => "stored document is malformed"
  | .backend reason => "store backend error: " ++ reason

/-- Documents by key, the keys in order. -/
abbrev Documents := List (String × Json)

namespace Documents

/-- The documents of some keys; a later one takes the place of an earlier one. -/
def ofList (ds : List (String × Json)) : Documents := Ordered.ofList ds

/-- The document of a key. -/
def get? (id : String) (ds : Documents) : Option Json := Ordered.find? id ds

/-- A new document; its key must be free. -/
def insert (id : String) (doc : Json) (ds : Documents) : Except StoreError Documents :=
  if (ds.get? id).isSome then .error (.alreadyExists id) else .ok (Ordered.insert id doc ds)

/-- Another document for a key, which must be taken. -/
def replace (id : String) (doc : Json) (ds : Documents) : Except StoreError Documents :=
  if (ds.get? id).isSome then .ok (Ordered.insert id doc ds) else .error (.notFound id)

/-- The documents without a key, and whether it was taken. -/
def remove (id : String) (ds : Documents) : Bool × Documents :=
  ((ds.get? id).isSome, Ordered.erase id ds)

/-- All documents in the order of their keys. -/
def list (ds : Documents) : List Json := ds.map (·.2)

end Documents

end ExperimentQuery
