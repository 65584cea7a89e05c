import ExperimentQuery.Window
import ExperimentQuery.Decimal.Reader
import ExperimentQuery.Sample
import ExperimentQuery.Unicode.Word

/-!
# Aggregates

The values of a user collapse into one number. A binomial metric may also carry a filter on the
aggregate, a list of comparisons separated by commas, such as `>=2, <10`.

* `Aggregation.apply`: the number of a list of values;
* `CompareOp`, `Comparison`, `Comparison.holds`;
* `hasNumeralForm`, `decimalNumeral?`: the form of a numeral, and its value;
* `comparison?`, **`parseComparisons`**: the comparisons of a text, or its first bad part;
* `keptComparisons`: the comparisons of a text, bad parts being passed over;
* `AggregateFilter`, **`AggregateFilter.ofParts?`**, `AggregateFilter.passes`.
-/

namespace ExperimentQuery

/-! ## Collapsing values -/

/-- The sum of some values from the left; the empty sum is minus zero. -/
def sumOf (values : List Sample) : Float := values.foldl (fun sum s => sum + s.value) (-0.0)

/-- The values in the total order. -/
def sortValues (values : List Sample) : List Sample :=
  values.mergeSort fun a b => a.orderKey ≤ b.orderKey

/-- The value at a place of some values. -/
def valueAt (values : List Sample) (i : Nat) : Float := (values[i]?.map Sample.value).getD 0.0

/-- The middle value, or the mean of the two in the middle. -/
def medianOf (values : List Sample) : Float :=
  let sorted := sortValues values
  let middle := sorted.length / 2
  let upper := valueAt sorted middle
  if sorted.length % 2 = 0 then (valueAt sorted (middle - 1) + upper) / 2.0 else upper

/-- The number of distinct values. -/
def countDistinctOf (values : List Sample) : Nat := values.eraseDups.length

/-- A count as a number. -/
def countOf {α : Type} (items : List α) : Float := (UInt64.ofNat items.length).toFloat

/-- The number that some values collapse into. -/
def Aggregation.apply (values : List Sample) : Aggregation → Float
  | .sum => sumOf values
  | .count => countOf values
  | .countDistinct => (UInt64.ofNat (countDistinctOf values)).toFloat
  | .min => values.foldl (fun least s => lesser least s.value) Decimal.infinity
  | .max => values.foldl (fun most s => greater most s.value) (-Decimal.infinity)
  | .avg => sumOf values / countOf values
  | .median => medianOf values

/-! ## Comparisons -/

/-- The operator of a comparison. -/
inductive CompareOp where
  | eq
  | ne
  | lt
  | le
  | gt
  | ge
  deriving Repr, DecidableEq

/-- A number compared with a fixed one. -/
structure Comparison where
  op : CompareOp
  value : Float
  deriving Repr

/-- Whether a comparison holds of a number. -/
def Comparison.holds (lhs : Float) (c : Comparison) : Bool :=
  match c.op with
  | .eq => lhs == c.value
  | .ne => lhs != c.value
  | .lt => lhs < c.value
  | .le => lhs <= c.value
  | .gt => c.value < lhs
  | .ge => c.value <= lhs

/-- The operator at the front of a text. -/
def compareOp? : List Char → Option (CompareOp × List Char)
  | '!' :: '=' :: rest => some (.ne, rest)
  | '<' :: '=' :: rest => some (.le, rest)
  | '>' :: '=' :: rest => some (.ge, rest)
  | '=' :: rest => some (.eq, rest)
  | '<' :: rest => some (.lt, rest)
  | '>' :: rest => some (.gt, rest)
  | _ => none

/-- Whether a text has the form of a numeral: digits of any script, with digits after a point or
without. -/
def hasNumeralForm (cs : List Char) : Bool :=
  match cs.span Unicode.isDecimalDigit with
  | ([], _) => false
  | (_, []) => true
  | (_, '.' :: places) => places ≠ [] && places.all Unicode.isDecimalDigit
  | _ => false

/-- The value of a numeral. Digits of other scripts than this one have the form of a numeral, but
they are no number. -/
def decimalNumeral? (cs : List Char) : Option Float :=
  if hasNumeralForm cs then Decimal.read? (String.ofList cs) else none

/-- A comparison: an operator followed by a numeral. -/
def comparison? (part : List Char) : Option Comparison :=
  (compareOp? part).bind fun (op, rest) => (decimalNumeral? rest).map fun value => ⟨op, value⟩

/-- The parts of an aggregate filter: white space does not count, and commas separate. -/
def filterParts (filter : String) : List (List Char) := Text.splitOn ',' (Text.compact filter)

/-- A part of an aggregate filter that is no comparison. -/
structure InvalidComparison where
  part : String
  deriving Repr, DecidableEq

/-- A part of an aggregate filter, which must be a comparison. -/
def requireComparison (part : List Char) : Except InvalidComparison Comparison :=
  match comparison? part with
  | some c => .ok c
  | none => .error ⟨String.ofList part⟩

/-- **The comparisons of an aggregate filter**, or its first part that is none; empty parts do not
count. -/
def parseComparisons (filter : String) : Except InvalidComparison (List Comparison) :=
  ((filterParts filter).filter (· ≠ [])).mapM requireComparison

/-! ## Aggregate filters -/

/-- What an aggregate filter compares: the number of matching events, or the sum of a column. -/
inductive FilterColumn where
  | rowCount
  | column (name : String)
  deriving Repr, DecidableEq

/-- The meaning of a filter column's name. -/
def FilterColumn.ofName (name : String) : FilterColumn :=
  if name = rowCountColumn then .rowCount else .column name

/-- A condition on the values of a user. -/
structure AggregateFilter where
  column : FilterColumn
  comparisons : List Comparison
  deriving Repr

/-- The comparisons that are kept of an aggregate filter: each part is read as a filter of its own,
and those that cannot be read are passed over. -/
def keptComparisons (filter : String) : List Comparison :=
  (filterParts filter).flatMap fun part => (parseComparisons (String.ofList part)).toOption.getD []

/-- **The filter of a column and a text**; a text of which nothing is kept gives no filter. -/
def AggregateFilter.ofParts? (column filter : String) : Option AggregateFilter :=
  match keptComparisons filter with
  | [] => none
  | cs => some ⟨.ofName column, cs⟩

/-- What a filter compares. -/
def AggregateFilter.observed (f : AggregateFilter) (values : List Sample) : Float :=
  match f.column with
  | .rowCount => countOf values
  | .column _ => sumOf values

/-- Whether the values of a user pass every comparison. -/
def AggregateFilter.passes (f : AggregateFilter) (values : List Sample) : Bool :=
  f.comparisons.all (·.holds (f.observed values))

end ExperimentQuery
