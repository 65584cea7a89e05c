import ExperimentQuery.Unicode.CodeSet

/-!
# Named sets of characters

The character database gives its sets by tables and by one another. A set expression says how a
set is made; its characters are worked out when they are asked for.

* `SetExpr`: tables, unions, differences and complements;
* `SetExpr.codes`: the set that an expression stands for;
* `NamedSet`: a set with the names it goes by.
-/

namespace ExperimentQuery.Unicode

/-- How a set of characters is made. -/
inductive SetExpr where
  | table (text : String)
  | union (a b : SetExpr)
  | diff (a b : SetExpr)
  | compl (a : SetExpr)
  deriving Repr

namespace SetExpr

instance : Union SetExpr := ⟨union⟩

instance : SDiff SetExpr := ⟨diff⟩

/-- The set that an expression stands for. -/
def codes : SetExpr → CodeSet
  | table text => .ofTable text
  | union a b => a.codes.union b.codes
  | diff a b => a.codes.diff b.codes
  | compl a => a.codes.compl

/-- The union of some sets. -/
def unions (es : List SetExpr) : SetExpr := es.foldl (· ∪ ·) (.table "")

end SetExpr

/-- A set with the names it goes by, in lower case without separators. -/
structure NamedSet where
  names : List String
  set : SetExpr
  deriving Repr

/-- The set of a name. -/
def NamedSet.find? (rows : List NamedSet) (name : String) : Option SetExpr :=
  (rows.find? (·.names.contains name)).map (·.set)

end ExperimentQuery.Unicode
