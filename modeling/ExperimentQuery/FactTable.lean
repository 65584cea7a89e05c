import ExperimentQuery.Json.Record

/-!
# Fact tables

Metric definitions refer to fact tables, which have typed columns and saved row filters.

* `FactTable`, `FactTable.hasFilter`, `FactTable.columnDatatype?`;
* `FactTables`: the tables by id, a later one taking the place of an earlier one;
* `FactTable.ofJson?`, `FactTable.toJson`: reading and writing.
-/

namespace ExperimentQuery

/-- The type of a column. -/
inductive ColumnDatatype where
  | number
  | string
  | date
  | boolean
  | json
  | other
  deriving Repr, DecidableEq

/-- A column and its type. -/
structure FactColumn where
  column : String
  datatype : ColumnDatatype
  deriving Repr, DecidableEq

/-- A saved row filter. -/
structure FactFilter where
  id : String
  name : String := ""
  value : String := ""
  deriving Repr, DecidableEq

/-- A fact table. -/
structure FactTable where
  id : String
  datasource : String
  filters : List FactFilter := []
  columns : List FactColumn := []
  deriving Repr, DecidableEq

namespace FactTable

/-- Whether a table has a filter with this id. -/
def hasFilter (t : FactTable) (id : String) : Bool := t.filters.any (·.id == id)

/-- The type of a column, if the table declares it. -/
def columnDatatype? (t : FactTable) (column : String) : Option ColumnDatatype :=
  (t.columns.find? (·.column == column)).map (·.datatype)

end FactTable

/-- Fact tables in the order given. -/
abbrev FactTables := List FactTable

/-- The last table with this id. -/
def FactTables.find (ts : FactTables) (id : String) : Option FactTable :=
  ts.reverse.find? fun t => t.id == id

/-! ## Documents -/

/-- The names of the types that are told apart. -/
def ColumnDatatype.names : List (String × ColumnDatatype) :=
  [("number", .number), ("string", .string), ("date", .date), ("boolean", .boolean),
    ("json", .json), ("other", .other)]

/-- The type of a name; names that are not known stand for other types. -/
def ColumnDatatype.ofName (name : String) : ColumnDatatype := (names.lookup name).getD .other

/-- The type of a column. -/
def ColumnDatatype.ofJson? : Json → Option ColumnDatatype
  | .str name => some (ofName name)
  | .obj [(name, .null)] => some (ofName name)
  | _ => none

/-- The name of a type. -/
def ColumnDatatype.toJson (t : ColumnDatatype) : Json := .str (Json.nameIn names t)

/-- A column. -/
def FactColumn.ofJson? (v : Json) : Option FactColumn := do
  let r ← v.record? ["column", "datatype"]
  return {
    column := ← r.required "column" Json.string?
    datatype := ← r.required "datatype" ColumnDatatype.ofJson? }

/-- The members of a column. -/
def FactColumn.toJson (c : FactColumn) : Json :=
  .obj [("column", .str c.column), ("datatype", c.datatype.toJson)]

/-- A saved filter. -/
def FactFilter.ofJson? (v : Json) : Option FactFilter := do
  let r ← v.record? ["id", "name", "value"]
  return {
    id := ← r.required "id" Json.string?
    name := ← r.withDefault "name" "" Json.string?
    value := ← r.withDefault "value" "" Json.string? }

/-- The members of a saved filter. -/
def FactFilter.toJson (f : FactFilter) : Json :=
  .obj [("id", .str f.id), ("name", .str f.name), ("value", .str f.value)]

/-- A fact table. -/
def FactTable.ofJson? (v : Json) : Option FactTable := do
  let r ← v.record? ["id", "datasource", "filters", "columns"]
  return {
    id := ← r.required "id" Json.string?
    datasource := ← r.required "datasource" Json.string?
    filters := ← r.withDefault "filters" [] (Json.list? FactFilter.ofJson?)
    columns := ← r.withDefault "columns" [] (Json.list? FactColumn.ofJson?) }

/-- The members of a fact table. -/
def FactTable.toJson (t : FactTable) : Json :=
  .obj [("id", .str t.id), ("datasource", .str t.datasource),
    ("filters", .arr (t.filters.map FactFilter.toJson)),
    ("columns", .arr (t.columns.map FactColumn.toJson))]

end ExperimentQuery
