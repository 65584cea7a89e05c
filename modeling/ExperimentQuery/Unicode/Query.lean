import ExperimentQuery.Unicode.Script
import ExperimentQuery.Unicode.Age
import ExperimentQuery.Unicode.WordBreak
import ExperimentQuery.Unicode.SentenceBreak

/-!
# Sets by name

A set of the character database is asked for by the name of a property, a category or a script, or
by the name of a property with values and one of its values. Names are loose: case, blanks, dashes,
underscores and `is` in front do not count.

* `looseName`: what counts of a name;
* `setOfName?`: the set of a name;
* `setOfValue?`: the set of a value of a property.
-/

namespace ExperimentQuery.Unicode

/-- A name in lower case without blanks, dashes and underscores, and without `is` before it. The
name `isc` keeps it, since it is not one of `c`. -/
def looseName (name : List Char) : String :=
  let kept := (name.filter fun c => c != ' ' && c != '-' && c != '_' && c.toNat < 128).map
    Char.toLower
  match name.map Char.toLower, kept with
  | 'i' :: 's' :: _, 'i' :: 's' :: rest =>
    if rest = ['c'] then "isc" else String.ofList rest
  | _, _ => String.ofList kept

/-- The set of a name: a property, a category or a script. -/
def setOfName? (name : List Char) : Option SetExpr :=
  let name := looseName name
  Property.ofName? name <|> Category.ofName? name <|> Script.ofName? name

/-- The set of a value of a property. -/
def setOfValue? (property value : List Char) : Option SetExpr :=
  let value := looseName value
  match looseName property with
  | "gc" | "generalcategory" => Category.ofName? value
  | "sc" | "script" => Script.ofName? value
  | "scx" | "scriptextensions" => Script.extendedOfName? value
  | "age" => Age.ofName? value
  | "gcb" | "graphemeclusterbreak" => GraphemeBreak.ofName? value
  | "wb" | "wordbreak" => WordBreak.ofName? value
  | "sb" | "sentencebreak" => SentenceBreak.ofName? value
  | _ => none

end ExperimentQuery.Unicode
