import ExperimentQuery.Json.Basic

/-!
# Records in JSON

A record is read from an object by the names of its fields, or from an array by their order.
Members with other names are passed over; a field may be given once only.

* `Json.record?`: the fields that a value gives;
* `Record.required`, `Record.withDefault`, `Record.optional`: one field;
* `Json.variant?`: one of a fixed list of names;
* `Json.present`: the members of fields that have a value.
-/

namespace ExperimentQuery

/-- The fields that a value gives for a record. -/
structure Record where
  fields : List (String × Json)

/-- Whether no name stands twice among some members. -/
def distinctNames : List (String × Json) → Bool
  | [] => true
  | (k, _) :: rest => !(rest.any (·.1 == k)) && distinctNames rest

/-- The fields that a value gives for a record with these field names. -/
def Json.record? (names : List String) : Json → Option Record
  | .obj members =>
    let known := members.filter fun m => names.contains m.1
    if distinctNames known then some ⟨known⟩ else none
  | .arr items => if items.length ≤ names.length then some ⟨names.zip items⟩ else none
  | _ => none

namespace Record

variable {α : Type}

/-- A field that must be given. -/
def required (r : Record) (name : String) (read : Json → Option α) : Option α :=
  (r.fields.lookup name).bind read

/-- A field with a value of its own when it is not given. -/
def withDefault (r : Record) (name : String) (fallback : α) (read : Json → Option α) : Option α :=
  match r.fields.lookup name with
  | none => some fallback
  | some v => read v

/-- A field that may be missing or `null`. -/
def optional (r : Record) (name : String) (read : Json → Option α) : Option (Option α) :=
  r.withDefault name none (Json.nullable? read)

end Record

namespace Json

/-- The value that a name stands for; the name may also be the only member of an object, with the
value `null`. -/
def variant? {α : Type} (table : List (String × α)) : Json → Option α
  | str name => table.lookup name
  | obj [(name, null)] => table.lookup name
  | _ => none

/-- The name that stands for a value. -/
def nameIn {α : Type} [DecidableEq α] (table : List (String × α)) (a : α) : String :=
  ((table.find? (·.2 = a)).map (·.1)).getD ""

/-- The member of a field that is written only when it has a value. -/
def present {α : Type} (name : String) (write : α → Json) : Option α → List (String × Json)
  | none => []
  | some a => [(name, write a)]

end Json

end ExperimentQuery
