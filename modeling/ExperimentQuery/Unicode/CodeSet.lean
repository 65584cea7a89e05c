import ExperimentQuery.Unicode.CodePoint

/-!
# Sets of characters

A set of characters is the list of its ranges of code points, in order and with a code point
between any two of them. Tables of the character database are texts of ranges separated by blanks:
`41-5A` holds every code point from the first to the last, `100-136/2` every second one, and `B5`
one code point.

* `Range`, `CodeSet`: ranges and sets;
* `CodeSet.ofRanges`, `CodeSet.ofTable`: the set of some ranges and of a table;
* `CodeSet.has`: whether a character is in a set;
* `CodeSet.union`, `inter`, `diff`, `symmDiff`, `compl`: the operations on sets.
-/

namespace ExperimentQuery.Unicode

/-- The code points from `first` to `last`. -/
structure Range where
  first : Nat
  last : Nat
  deriving Repr, DecidableEq

/-- The range with these two ends, whichever comes first. -/
def Range.between (a b : Nat) : Range := ⟨min a b, max a b⟩

/-- A set of characters. -/
structure CodeSet where
  ranges : List Range
  deriving Repr, DecidableEq

namespace CodeSet

/-! ## Building sets -/

/-- Ranges in the order of their first code points, with those that touch put together. -/
def coalesce : List Range → List Range
  | [] => []
  | [a] => [a]
  | a :: b :: rest =>
    if b.first ≤ a.last + 1 then coalesce (⟨a.first, max a.last b.last⟩ :: rest)
    else a :: coalesce (b :: rest)
termination_by rs => rs.length

/-- The set of some ranges. -/
def ofRanges (rs : List Range) : CodeSet :=
  ⟨coalesce (rs.mergeSort fun a b => a.first ≤ b.first)⟩

/-- The set of some code points. -/
def ofCodes (ns : List Nat) : CodeSet := ofRanges (ns.map fun n => ⟨n, n⟩)

/-- The set of one character. -/
def single (c : Char) : CodeSet := ⟨[⟨c.toNat, c.toNat⟩]⟩

/-- The characters from one to another. -/
def range (first last : Char) : CodeSet := ⟨[⟨first.toNat, last.toNat⟩]⟩

/-- The empty set. -/
def empty : CodeSet := ⟨[]⟩

/-- All characters. -/
def all : CodeSet := ⟨[⟨0, greatest⟩]⟩

/-- The ranges of one word of a table. -/
def wordRanges? (word : List Char) : Option (List Range) := do
  let (bounds, step) := word.span (· != '/')
  let (first, last) := bounds.span (· != '-')
  let first ← hex? first
  let last ← if last = [] then some first else hex? last.tail
  match step with
  | [] => return [⟨first, last⟩]
  | _ :: step =>
    let step ← hex? step
    return (List.range ((last - first) / step + 1)).map fun k =>
      ⟨first + k * step, first + k * step⟩

/-- The words of a text. -/
def words (text : String) : List (List Char) :=
  (text.toList.foldr (fun c (ws : List (List Char)) =>
    if c = ' ' ∨ c = '\n' then [] :: ws
    else match ws with
      | [] => [[c]]
      | w :: ws => (c :: w) :: ws) []).filter (· ≠ [])

/-- The set of a table. -/
def ofTable (text : String) : CodeSet :=
  ofRanges ((words text).filterMap wordRanges?).flatten

/-! ## Membership -/

/-- Whether a code point is in one of some ranges that are in order. -/
def hasCode : List Range → Nat → Bool
  | [], _ => false
  | r :: rs, n => if r.last < n then hasCode rs n else r.first ≤ n

/-- Whether a character is in a set. -/
def has (s : CodeSet) (c : Char) : Bool := hasCode s.ranges c.toNat

/-- The only character of a set. -/
def only? (s : CodeSet) : Option Char :=
  match s.ranges with
  | [r] => if r.first = r.last then char? r.first else none
  | _ => none

/-- Whether all characters of a set are in ASCII. -/
def isAscii (s : CodeSet) : Bool := s.ranges.all (·.last < 128)

/-! ## Operations -/

/-- The characters in either set. -/
def union (a b : CodeSet) : CodeSet :=
  ⟨coalesce (List.merge a.ranges b.ranges fun x y => x.first ≤ y.first)⟩

/-- The ranges common to two lists of ranges. -/
def interRanges : List Range → List Range → List Range
  | [], _ => []
  | _, [] => []
  | a :: as, b :: bs =>
    let rest := if a.last < b.last then interRanges as (b :: bs) else interRanges (a :: as) bs
    let first := max a.first b.first
    let last := min a.last b.last
    if first ≤ last then ⟨first, last⟩ :: rest else rest
termination_by as bs => as.length + bs.length

/-- The characters in both sets. -/
def inter (a b : CodeSet) : CodeSet := ⟨interRanges a.ranges b.ranges⟩

/-- The ranges that are left of the first list without the second. -/
def diffRanges : List Range → List Range → List Range
  | [], _ => []
  | as, [] => as
  | a :: as, b :: bs =>
    if b.last < a.first then diffRanges (a :: as) bs
    else if a.last < b.first then a :: diffRanges as (b :: bs)
    else
      let rest := if b.last < a.last then diffRanges (⟨next b.last, a.last⟩ :: as) bs
        else diffRanges as (b :: bs)
      if a.first < b.first then ⟨a.first, prev b.first⟩ :: rest else rest
termination_by as bs => as.length + bs.length

/-- The characters in the first set and not in the second. -/
def diff (a b : CodeSet) : CodeSet := ⟨diffRanges a.ranges b.ranges⟩

/-- The characters in one of the sets only. -/
def symmDiff (a b : CodeSet) : CodeSet := (a.union b).diff (a.inter b)

/-- The gaps between ranges, from the end of the range before them. A gap reaches from the next
character to the one before, so that the gap of the surrogates joins the characters around it. -/
def gaps (last : Nat) : List Range → List Range
  | [] => if last < greatest then [.between (next last) greatest] else []
  | r :: rs => .between (next last) (prev r.first) :: gaps r.last rs

/-- The characters that are not in a set. -/
def compl (s : CodeSet) : CodeSet :=
  match s.ranges with
  | [] => all
  | r :: rs =>
    if 0 < r.first then ⟨.between 0 (prev r.first) :: gaps r.last rs⟩ else ⟨gaps r.last rs⟩

/-- A set, or its complement. -/
def complIf (negated : Bool) (s : CodeSet) : CodeSet := if negated then s.compl else s

end CodeSet

end ExperimentQuery.Unicode
