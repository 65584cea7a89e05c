import ExperimentQuery.Chunks
import ExperimentQuery.Ordered
import ExperimentQuery.Time.Instant

/-!
# Summaries

The count, the sum and the sum of squares of some numbers, and such summaries for each date. The
numbers may be of any type with addition and multiplication, so that rounding is a matter of the
type.

* `Summary`, `Summary.push`, `Summary.merge`, `Summary.ofList`;
* `utcDate`: the date of a time as text;
* `DateSummaries`, **`reduceByDate`**, **`batchedByDate`**: summaries by date, at once or in
  batches.
-/

namespace ExperimentQuery

/-- The count, the sum and the sum of squares of some numbers. -/
structure Summary (α : Type) where
  count : Nat
  sum : α
  sumSquares : α
  deriving Repr, DecidableEq

namespace Summary

variable {α : Type} [OfNat α 0] [Add α] [Mul α]

/-- The summary of no numbers. -/
def empty : Summary α := ⟨0, 0, 0⟩

/-- Add a number. -/
def push (s : Summary α) (x : α) : Summary α := ⟨s.count + 1, s.sum + x, s.sumSquares + x * x⟩

/-- Add the numbers of another summary. -/
def merge (s t : Summary α) : Summary α :=
  ⟨s.count + t.count, s.sum + t.sum, s.sumSquares + t.sumSquares⟩

/-- The summary of some numbers. -/
def ofList (xs : List α) : Summary α := xs.foldl push empty

omit [OfNat α 0] in
@[simp]
theorem count_foldl_push (xs : List α) (s : Summary α) :
    (xs.foldl push s).count = s.count + xs.length := by
  induction xs generalizing s with
  | nil => rfl
  | cons x xs ih => simp [ih, push]; omega

@[simp]
theorem count_ofList (xs : List α) : (ofList xs).count = xs.length := by
  simp [ofList, empty]

end Summary

/-- The date of a time in milliseconds; nothing for a time outside of the calendar. -/
def utcDate (time : Int) : String :=
  ((Time.dayOfMillis? time).map fun day => (Time.Date.ofDay day).text).getD ""

/-- Summaries by date, the dates in order. -/
abbrev DateSummaries (α : Type) := List (String × Summary α)

section

variable {α : Type} [OfNat α 0] [Add α] [Mul α]

/-- Change the summary of a date, which is empty at first. -/
def atDate (date : String) (f : Summary α → Summary α) (ds : DateSummaries α) : DateSummaries α :=
  Ordered.update date (fun s => f (s.getD .empty)) ds

/-- Add the summaries of a partial result. -/
def addPartial (ds earlier : DateSummaries α) : DateSummaries α :=
  earlier.foldl (fun ds d => atDate d.1 (·.merge d.2) ds) ds

/-- Add a user, who has a time and a value. -/
def addUser (ds : DateSummaries α) (u : Int × α) : DateSummaries α :=
  atDate (utcDate u.1) (·.push u.2) ds

/-- **Merge earlier partial results, then add users.** -/
def reduceByDate (earlier : List (DateSummaries α)) (users : List (Int × α)) : DateSummaries α :=
  users.foldl addUser (earlier.foldl addPartial [])

/-- **Users reduced in batches**, the partial results being merged. -/
def batchedByDate (users : List (Int × α)) (batchSize : Nat) : DateSummaries α :=
  reduceByDate ((chunks batchSize users).map (reduceByDate [])) []

end

end ExperimentQuery
