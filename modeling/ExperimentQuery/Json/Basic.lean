import ExperimentQuery.Ordered
import ExperimentQuery.Decimal.Binary

/-!
# JSON values

A value keeps the members of an object as they were written. Free-form data is **canonical**:
within each object the names are distinct and in order, and of several members with one name the
last one counts.

* `Json`: a value; whole numbers that fit 64 bits are kept apart from other numbers;
* `Json.intact`: whether a value has no flaw, a part of a text that no value stands for;
* `Json.same`: equality of values, floats being compared as numbers;
* `Json.canonical`: a value with the members of its objects in order;
* `Json.get?`, `Json.path?`: the value at a name, and at a path of names;
* `Json.number?`, `Json.string?`, …: the content of a value of one kind.
-/

namespace ExperimentQuery

/-- A JSON value. -/
inductive Json where
  | null
  | bool (value : Bool)
  | int (value : Int)
  | float (value : Float)
  | str (value : String)
  | arr (items : List Json)
  | obj (members : List (String × Json))
  /-- What a text holds where its grammar is kept and no value stands for it: a number out of range,
  half a pair of surrogates, or more levels than there may be. -/
  | flaw
  deriving Repr, Inhabited

namespace Json

/-! ## Flaws -/

mutual

/-- Whether a value has no flaw in it. -/
def intact : Json → Bool
  | arr items => intactItems items
  | obj members => intactMembers members
  | flaw => false
  | _ => true

/-- Whether no item has a flaw. -/
def intactItems : List Json → Bool
  | [] => true
  | v :: vs => intact v && intactItems vs

/-- Whether no member has a flaw. -/
def intactMembers : List (String × Json) → Bool
  | [] => true
  | (_, v) :: ms => intact v && intactMembers ms

end

/-! ## Equality -/

mutual

/-- Whether two values are equal. A whole number never equals a float. -/
def same : Json → Json → Bool
  | null, null => true
  | bool a, bool b => a == b
  | int a, int b => a == b
  | float a, float b => a == b
  | str a, str b => a == b
  | arr a, arr b => sameItems a b
  | obj a, obj b => sameMembers a b
  | _, _ => false

/-- Whether two lists of values are equal. -/
def sameItems : List Json → List Json → Bool
  | [], [] => true
  | a :: as, b :: bs => same a b && sameItems as bs
  | _, _ => false

/-- Whether two lists of members are equal. -/
def sameMembers : List (String × Json) → List (String × Json) → Bool
  | [], [] => true
  | (k, a) :: as, (l, b) :: bs => k == l && same a b && sameMembers as bs
  | _, _ => false

end

/-! ## Canonical objects -/

mutual

/-- The value with the members of every object in order and distinct. -/
def canonical : Json → Json
  | arr items => arr (canonicalItems items)
  | obj members => obj (Ordered.ofList (canonicalMembers members))
  | v => v

/-- The items of an array, each canonical. -/
def canonicalItems : List Json → List Json
  | [] => []
  | v :: vs => canonical v :: canonicalItems vs

/-- The members of an object, each canonical. -/
def canonicalMembers : List (String × Json) → List (String × Json)
  | [] => []
  | (k, v) :: ms => (k, canonical v) :: canonicalMembers ms

end

/-! ## Access -/

/-- The member of an object with this name. -/
def get? (name : String) : Json → Option Json
  | obj members => members.lookup name
  | _ => none

/-- The value at a path of names. -/
def path? : List String → Json → Option Json
  | [], v => some v
  | name :: names, v => (v.get? name).bind (path? names)

/-- The text of a string. -/
def string? : Json → Option String
  | str s => some s
  | _ => none

/-- The double of a number of either kind. -/
def number? : Json → Option Float
  | int n => some (Decimal.wholeFloat n)
  | float x => some x
  | _ => none

/-- A boolean. -/
def bool? : Json → Option Bool
  | bool b => some b
  | _ => none

/-- A whole number from `low` to `high`. -/
def intIn? (low high : Int) : Json → Option Int
  | int n => if low ≤ n ∧ n ≤ high then some n else none
  | _ => none

/-- A whole number of `bits` bits without a sign. -/
def natBelow? (bits : Nat) (v : Json) : Option Nat :=
  (v.intIn? 0 ((Nat.pow 2 bits : Int) - 1)).map Int.toNat

/-- A signed whole number of 64 bits. -/
def int64? (v : Json) : Option Int :=
  v.intIn? (-(Nat.pow 2 63 : Int)) ((Nat.pow 2 63 : Int) - 1)

/-- The items of an array. -/
def items? : Json → Option (List Json)
  | arr items => some items
  | _ => none

/-- The items of an array, each read. -/
def list? {α : Type} (read : Json → Option α) (v : Json) : Option (List α) :=
  v.items?.bind (·.mapM read)

/-- Nothing for `null`, and otherwise the value read. -/
def nullable? {α : Type} (read : Json → Option α) : Json → Option (Option α)
  | null => some none
  | v => (read v).map some

/-- A list of texts. -/
def strings? : Json → Option (List String) := list? string?

/-! ## Building -/

/-- A number, or `null` when it is not finite. -/
def ofFloat (x : Float) : Json := if x.isFinite then float x else null

/-- A whole number. -/
def ofNat (n : Nat) : Json := int n

/-- A list of texts. -/
def ofStrings (ss : List String) : Json := arr (ss.map str)

/-- A value that may be missing, `null` standing for a missing one. -/
def ofOption {α : Type} (write : α → Json) : Option α → Json
  | none => null
  | some a => write a

end Json

end ExperimentQuery
