import ExperimentQuery.Json.Record
import ExperimentQuery.Json.Printer
import ExperimentQuery.Decimal.Reader
import ExperimentQuery.Sample

/-!
# Events

An event of the analytics stream has a name, a time, a user and free-form properties.

* `Event`, `Event.lookup?`: the property at a path;
* `Json.asSample?`, `Json.asNumber?`: a property as a number;
* `Json.asText`: a property as text;
* `Event.ofJson?`, `Event.toJson`: reading and writing.
-/

namespace ExperimentQuery

/-- One event; its time is in milliseconds since 1970. -/
structure Event where
  name : String
  time : Int
  distinctId : String
  properties : List (String × Json) := []
  deriving Repr

/-- The property at a path; the empty path leads nowhere. -/
def Event.lookup? (e : Event) : List String → Option Json
  | [] => none
  | name :: rest => (e.properties.lookup name).bind (Json.path? rest)

namespace Json

/-- A property as a sample: a number, a text that denotes one, or a truth value as 0 or 1. -/
def asSample? : Json → Option Sample
  | str s => (Decimal.readBits? (Text.trim s)).map Sample.mk
  | bool b => some (.ofFloat (if b then 1.0 else 0.0))
  | v => v.number?.map .ofFloat

/-- A property as a number. -/
def asNumber? (v : Json) : Option Float := v.asSample?.map Sample.value

/-- A number as text; small whole numbers have no decimals. -/
def numberText (v : Json) (x : Float) : String :=
  if Decimal.isShortInteger x then (if x == 0 then "0" else Decimal.plain x) else v.compact

/-- A property as text, as adding it to an empty text gives. -/
def asText : Option Json → String
  | none => "undefined"
  | some (str s) => s
  | some v =>
    match v.number? with
    | some x => numberText v x
    | none => v.compact

/-- An object's members in order and distinct, each canonical. -/
def members? : Json → Option (List (String × Json))
  | obj members => some (Ordered.ofList (canonicalMembers members))
  | _ => none

end Json

/-- An event. -/
def Event.ofJson? (v : Json) : Option Event := do
  let r ← v.record? ["name", "time", "distinct_id", "properties"]
  return {
    name := ← r.required "name" Json.string?
    time := ← r.required "time" Json.int64?
    distinctId := ← r.required "distinct_id" Json.string?
    properties := ← r.withDefault "properties" [] Json.members? }

/-- The members of an event. -/
def Event.toJson (e : Event) : Json :=
  .obj [("name", .str e.name), ("time", .int e.time), ("distinct_id", .str e.distinctId),
    ("properties", .obj e.properties)]

end ExperimentQuery
