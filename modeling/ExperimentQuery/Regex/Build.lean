import ExperimentQuery.Regex.Basic

/-!
# Building expressions

Expressions are put together in a simple form: literals that follow one another are one literal, a
set of one character is a literal, alternatives of single characters are a set, and what all
alternatives begin with stands before them.

* `Regex.minLength`, `Regex.isEmptyOnly`: the length of what an expression matches;
* `Regex.ofSet`, `Regex.repeated`, `Regex.ofParts`, `Regex.ofBranches`: expressions in simple form;
* `Regex.parts`, `Regex.branches`: what sequences and alternatives are made of.
-/

namespace ExperimentQuery.Regex

open Unicode (CodeSet)

/-! ## Lengths -/

/-- The least length of what an expression matches, none where it may match nothing at all. -/
def minLength : Regex → Option Nat
  | empty | look _ => some 0
  | literal cs => some cs.length
  | set s => if s.ranges = [] then none else some 1
  | times r low _ => r.minLength.map (· * low)
  | group _ r => r.minLength
  | seq a b => do return (← a.minLength) + (← b.minLength)
  | alt a b => do return min (← a.minLength) (← b.minLength)

/-- Whether an expression can match no more than the empty text. -/
def isEmptyOnly : Regex → Bool
  | empty | look _ => true
  | literal cs => cs.isEmpty
  | set _ => false
  | times r _ _ => r.isEmptyOnly
  | group _ r => r.isEmptyOnly
  | seq a b => a.isEmptyOnly && b.isEmptyOnly
  | alt a b => a.isEmptyOnly && b.isEmptyOnly

/-! ## Sets and repetitions -/

/-- The expression of a set of characters. -/
def ofSet (s : CodeSet) : Regex :=
  match s.only? with
  | some c => literal [c]
  | none => set s

/-- The expression that repeats another. What matches the empty text only is not repeated. -/
def repeated (r : Regex) (low : Nat) (high : Option Nat) : Regex :=
  let (low, high) :=
    if r.isEmptyOnly then (min low 1, some (min (high.getD 1) 1)) else (low, high)
  if low = 0 ∧ high = some 0 then empty
  else if low = 1 ∧ high = some 1 then r
  else times r low high

/-! ## Sequences -/

/-- The parts of a sequence. -/
def parts : Regex → List Regex
  | empty => []
  | seq a b => a :: b.parts
  | r => [r]

/-- A part put before a sequence. -/
def cons : Regex → Regex → Regex
  | empty, s => s
  | r, empty => r
  | literal cs, literal ds => literal (cs ++ ds)
  | literal cs, seq (literal ds) s => seq (literal (cs ++ ds)) s
  | r, s => seq r s

/-- The sequence of some expressions. -/
def ofParts : List Regex → Regex
  | [] => empty
  | [r] => r
  | r :: rs => r.parts.foldr cons (ofParts rs)

/-! ## Alternatives -/

/-- The branches of alternatives. -/
def branches : Regex → List Regex
  | alt a b => a :: b.branches
  | r => [r]

/-- The character of a literal of one. -/
def char? : Regex → Option Char
  | literal [c] => some c
  | _ => none

/-- The characters of a set. -/
def set? : Regex → Option CodeSet
  | set s => some s
  | _ => none

/-- The set that single characters, or sets, are alternatives of. -/
def commonSet? (rs : List Regex) : Option CodeSet :=
  (rs.mapM char?).map (fun cs => CodeSet.ofCodes (cs.map Char.toNat)) <|>
    (rs.mapM set?).map (·.foldl CodeSet.union .empty)

/-- The longest list that two lists begin with. -/
def commonStart : List Regex → List Regex → List Regex
  | a :: as, b :: bs => if a = b then a :: commonStart as bs else []
  | _, _ => []

/-- What all branches begin with, when all are sequences. -/
def sharedStart : List Regex → List Regex
  | [] => []
  | r :: rs =>
    if (r :: rs).all (1 < ·.parts.length) then
      rs.foldl (fun start r => commonStart start r.parts) r.parts
    else []

/-- A chain of branches. -/
def choice : List Regex → Regex
  | [] => set .empty
  | [r] => r
  | r :: rs => alt r (choice rs)

/-- The alternatives of some expressions; `n` bounds how often their common start is put before
them. -/
def ofBranchesWithin : Nat → List Regex → Regex
  | 0, rs => choice rs
  | n + 1, rs =>
    let rs := rs.flatMap branches
    match rs with
    | [] | [_] => choice rs
    | _ =>
      match commonSet? rs, sharedStart rs with
      | some s, _ => ofSet s
      | none, [] => choice rs
      | none, start =>
        let rests := rs.map fun r => ofParts (r.parts.drop start.length)
        ofParts (start ++ [ofBranchesWithin n rests])

/-- The alternatives of some expressions. -/
def ofBranches : List Regex → Regex
  | [r] => r
  | rs => ofBranchesWithin ((rs.map (·.parts.length)).foldl (· + ·) 1) rs

end ExperimentQuery.Regex
