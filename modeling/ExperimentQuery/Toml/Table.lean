import ExperimentQuery.Json.Basic

/-!
# Tables of TOML

A table is built line by line. A header opens a table once only, dotted keys fill tables that no
header has opened, and a value that is there is never changed.

* `Entry`, `Table`: what a key stands for, and keys with entries;
* `Table.put`: a value at a dotted key;
* `Table.openAt`, `Table.appendAt`: the table of a header, and a new one in the list of a header;
* `Table.within`: a change within the table of a header;
* `Table.members`: the table as a value.
-/

namespace ExperimentQuery.Toml

/-- How a table came about: on the way to another header, by a header of its own, or by a dotted
key. -/
inductive Origin where
  | passed
  | header
  | dotted
  deriving Repr, DecidableEq

/-- What a key stands for. -/
inductive Entry where
  | value (v : Json)
  | table (origin : Origin) (members : List (String × Entry))
  | tables (items : List (List (String × Entry)))

/-- Keys with what they stand for. -/
abbrev Table := List (String × Entry)

namespace Table

/-- A table with a key changed, or added at the end. -/
def set (key : String) (e : Entry) : Table → Table
  | [] => [(key, e)]
  | (k, old) :: t => if k = key then (k, e) :: t else (k, old) :: set key e t

/-- A change of the last table in a list. -/
def changeLast (f : Table → Option Table) : List Table → Option (List Table)
  | [] => none
  | [t] => (f t).map ([·])
  | t :: ts => (changeLast f ts).map (t :: ·)

/-- A change of the table that a key stands for, which is made with `origin` when it is missing. A
dotted key does not reach into a table with a header of its own. -/
def change (origin : Origin) (key : String) (f : Table → Option Table) (t : Table) :
    Option Table := do
  let e ← match t.lookup key with
    | none => (f []).map (Entry.table origin)
    | some (.table old members) =>
      if origin = .dotted ∧ old = .header then none else (f members).map (Entry.table old)
    | some (.tables items) => (changeLast f items).map Entry.tables
    | some (.value _) => none
  return t.set key e

/-- A value at a dotted key, where nothing may stand yet. -/
def put (v : Json) : List String → Table → Option Table
  | [], _ => none
  | [key], t => if (t.lookup key).isSome then none else some (t.set key (.value v))
  | key :: keys, t => t.change .dotted key (put v keys)

/-- A change within the table of a header. -/
def within (f : Table → Option Table) : List String → Table → Option Table
  | [], t => f t
  | key :: keys, t => t.change .passed key (within f keys)

/-- A table opened by its header; at most a header further on has passed it. -/
def openKey (key : String) (t : Table) : Option Table :=
  match t.lookup key with
  | none => some (t.set key (.table .header []))
  | some (.table .passed members) => some (t.set key (.table .header members))
  | _ => none

/-- A new table in the list that a key stands for. -/
def appendKey (key : String) (t : Table) : Option Table :=
  match t.lookup key with
  | none => some (t.set key (.tables [[]]))
  | some (.tables items) => some (t.set key (.tables (items ++ [[]])))
  | _ => none

/-- The table of a header. -/
def openAt (path : List String) (t : Table) : Option Table := do
  within (openKey (← path.getLast?)) path.dropLast t

/-- A new table in the list of a header. -/
def appendAt (path : List String) (t : Table) : Option Table := do
  within (appendKey (← path.getLast?)) path.dropLast t

mutual

/-- What a key stands for, as a value. -/
def entryValue : Entry → Json
  | .value v => v
  | .table _ members => .obj (tableMembers members)
  | .tables items => .arr (tableItems items)

/-- The members of a table. -/
def tableMembers : List (String × Entry) → List (String × Json)
  | [] => []
  | (k, e) :: t => (k, entryValue e) :: tableMembers t

/-- The tables of a list. -/
def tableItems : List (List (String × Entry)) → List Json
  | [] => []
  | t :: ts => .obj (tableMembers t) :: tableItems ts

end

/-- A table as a value. -/
def toJson (t : Table) : Json := .obj (tableMembers t)

end Table

end ExperimentQuery.Toml
