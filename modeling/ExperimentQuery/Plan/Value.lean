import ExperimentQuery.Plan.Predicate

/-!
# Value expressions

What a matching event contributes to a metric. A column that mentions `event` as a word is an
expression over the event record, one that begins with a digit is a number, and any other is a
property path.

* `ValueExpr`, **`ValueExpr.ofColumn`**: the kinds of expressions;
* `mentionsEvent`, `bracketPath?`: how columns are told apart and event references taken apart;
* **`ValueExpr.eval`**: the number of an event.
-/

namespace ExperimentQuery

/-- What an event contributes. -/
inductive ValueExpr where
  /-- Each event counts as one. -/
  | one
  /-- A number, as written. -/
  | literal (text : String)
  /-- An expression over the event record, as written. -/
  | raw (text : String)
  /-- A property. -/
  | property (path : List String)
  deriving Repr, DecidableEq

/-- Whether `event` stands in a text as a whole word; `inWord` tells whether a character of a word
comes before the text. -/
def mentionsEventAfter : Bool → List Char → Bool
  | _, [] => false
  | inWord, c :: cs =>
    (!inWord && ((Text.stripWord? "event".toList (c :: cs)).any fun rest =>
      !rest.head?.any Unicode.isWord)) ||
      mentionsEventAfter (Unicode.isWord c) cs

/-- Whether `event` stands in a text as a whole word. -/
def mentionsEvent (cs : List Char) : Bool := mentionsEventAfter false cs

/-- The names of a chain of bracketed names in quotes, such as `["a"]["b"]`: `name` is the name
being read, if one is. -/
def bracketNames : Option (List Char) → List Char → Option (List (List Char))
  | none, [] => some []
  | none, '[' :: '"' :: cs => bracketNames (some []) cs
  | none, _ => none
  | some _, [] => none
  | some name, '"' :: ']' :: cs => (bracketNames none cs).map (name.reverse :: ·)
  | some name, c :: cs => if c = '"' then none else bracketNames (some (c :: name)) cs

/-- The path of a chain of one or more bracketed names. -/
def bracketPath? (cs : List Char) : Option (List String) :=
  match bracketNames none cs with
  | some (n :: ns) => some ((n :: ns).map String.ofList)
  | _ => none

namespace ValueExpr

/-- **The expression of a column.** -/
def ofColumn : Option String → ValueExpr
  | none => one
  | some column =>
    if mentionsEvent column.toList then raw column
    else if column.toList.head?.any Char.isDigit then literal column
    else property (propertyPath column)

/-- A property as a number. -/
def propertyValue (path : List String) (e : Event) : Option Sample :=
  (e.lookup? path).bind Json.asSample?

/-- The value of a simple reference to the event: its time, or a property by dots or brackets. -/
def referenceValue (text : String) (e : Event) : Option Sample :=
  let cs := Text.trimChars text.toList
  if cs = "event.time".toList then some (.ofFloat (Decimal.wholeFloat e.time))
  else
    match Text.stripWord? "event.properties".toList cs with
    | none => none
    | some ('.' :: rest) => propertyValue (propertyPath (String.ofList rest)) e
    | some rest => (bracketPath? rest).bind fun path => propertyValue path e

/-- **The number that an event contributes**, if there is one. -/
def eval (v : ValueExpr) (e : Event) : Option Sample :=
  match v with
  | one => some (.ofFloat 1.0)
  | literal text => (Decimal.readBits? text).map Sample.mk
  | property path => propertyValue path e
  | raw text => referenceValue text e

end ValueExpr

end ExperimentQuery
