import ExperimentQuery.Unicode.Word
import ExperimentQuery.Regex.Bracket

/-!
# Reading patterns

A pattern is read item by item; the groups around the item being read wait on a stack.

* `Branches`: what has been read of a group;
* `bounds?`: what repeats the item before it;
* `groupHead?`: what an opening bracket begins;
* **`Pattern.parse?`**: the pattern that a text denotes.
-/

namespace ExperimentQuery.Pattern

open Unicode (isBlank)

/-! ## Repetitions -/

/-- The digits of a count, with what does not count between them. -/
def countDigits (spaced : Bool) : Nat → List Char → List Char × List Char
  | 0, cs => ([], cs)
  | n + 1, cs =>
    match cs with
    | c :: rest =>
      if c.isDigit then
        let (ds, rest) := countDigits spaced n (skip spaced rest)
        (c :: ds, rest)
      else ([], cs)
    | [] => ([], [])

/-- A count of 32 bits; blanks around it do not count. -/
def count? (spaced : Bool) (n : Nat) (cs : List Char) : Option (Nat × List Char) :=
  let cs := cs.dropWhile isBlank
  match countDigits spaced n cs with
  | ([], _) => none
  | (ds, rest) =>
    let count := ds.foldl (fun k c => 10 * k + (c.toNat - '0'.toNat)) 0
    if count < Nat.pow 2 32 then some (count, skip spaced (rest.dropWhile isBlank)) else none

/-- The bounds of a repetition after its opening brace. -/
def bracedBounds? (spaced : Bool) (n : Nat) (cs : List Char) :
    Option (Nat × Option Nat × List Char) := do
  let (low, rest) ← count? spaced n (skip spaced cs)
  match rest with
  | '\x7d' :: rest => some (low, some low, rest)
  | ',' :: rest =>
    match skip spaced rest with
    | '\x7d' :: rest => some (low, none, rest)
    | rest =>
      match ← count? spaced n rest with
      | (high, '\x7d' :: rest) => if low ≤ high then some (low, some high, rest) else none
      | _ => none
  | _ => none

/-- The text without the mark of a lazy repetition, which matches the same texts. -/
def dropLazy : List Char → List Char
  | '?' :: rest => rest
  | rest => rest

/-- The bounds of the repetition that a character begins, if it begins one. -/
def bounds? (spaced : Bool) (n : Nat) (c : Char) (rest : List Char) :
    Option (Nat × Option Nat × List Char) :=
  match c with
  | '?' => some (0, some 1, dropLazy rest)
  | '*' => some (0, none, dropLazy rest)
  | '+' => some (1, none, dropLazy rest)
  | '\x7b' => (bracedBounds? spaced n rest).map fun (low, high, rest) =>
      (low, high, dropLazy (skip spaced rest))
  | _ => none

/-- Whether a character begins a repetition. -/
def beginsRepetition (c : Char) : Bool := c == '?' || c == '*' || c == '+' || c == '\x7b'

/-! ## Groups -/

/-- Flags up to a colon or a closing bracket, each at most once and a minus sign not last; `seen`
holds the characters read so far, the last one first. -/
def flagItems? (negative : Bool) (seen : List Char) :
    List Char → Option (FlagChange × Char × List Char)
  | [] => none
  | c :: cs =>
    if c = ':' ∨ c = ')' then
      if seen.head? = some '-' ∨ (c = ')' ∧ seen = []) then none else some ([], c, cs)
    else if seen.contains c then none
    else if c = '-' then flagItems? true ('-' :: seen) cs
    else do
      let flag ← Flag.ofChar? c
      let (change, stop, rest) ← flagItems? negative (c :: seen) cs
      return ((flag, !negative) :: change, stop, rest)

/-- Whether a character may stand in a group's name. -/
def isNameChar (first : Bool) (c : Char) : Bool :=
  c == '_' || (if first then Unicode.isAlphabetic c
    else c == '.' || c == '[' || c == ']' || Unicode.isAlphanumeric c)

/-- The name of a group up to its closing angle. -/
def groupName? (cs : List Char) : Option (List Char × List Char) :=
  match cs.span (· != '>') with
  | (c :: name, '>' :: rest) =>
    if isNameChar true c && name.all (isNameChar false) then some (c :: name, rest) else none
  | _ => none

/-- What an opening bracket begins. -/
inductive GroupHead where
  /-- Flags for the rest of the group around them. -/
  | flags (change : FlagChange)
  /-- A group with flags of its own. -/
  | group (change : FlagChange)
  /-- A group that captures, with its name if it has one. -/
  | capture (name : Option (List Char))

/-- What follows an opening bracket. -/
def groupHead? (spaced : Bool) (cs : List Char) : Option (GroupHead × List Char) :=
  match skip spaced cs with
  | '?' :: 'P' :: '<' :: rest => (groupName? rest).map fun (name, rest) => (.capture name, rest)
  | '?' :: '<' :: rest => (groupName? rest).map fun (name, rest) => (.capture name, rest)
  | '?' :: rest =>
    (flagItems? false [] rest).map fun (change, stop, rest) =>
      (if stop = ')' then .flags change else .group change, rest)
  | rest => some (.capture none, rest)

/-- The last value given to the flag for blanks, or the one before. -/
def spacedAfter (change : FlagChange) (spaced : Bool) : Bool :=
  (change.lookup .spaced).getD spaced

/-! ## Items -/

/-- What has been read of a group: the alternatives before the one being read and the items of
that one, each list with the last one first. -/
structure Branches where
  before : List Pattern := []
  items : List Pattern := []

namespace Branches

/-- A chain of items. -/
def seqChain : List Pattern → Pattern
  | [] => .empty
  | [p] => p
  | p :: ps => .seq p (seqChain ps)

/-- A chain of alternatives. -/
def altChain : List Pattern → Pattern
  | [] => .empty
  | [p] => p
  | p :: ps => .alt p (altChain ps)

/-- Add an item. -/
def push (b : Branches) (p : Pattern) : Branches := { b with items := p :: b.items }

/-- Begin the next alternative. -/
def next (b : Branches) : Branches := { before := seqChain b.items.reverse :: b.before }

/-- The whole group. -/
def finish (b : Branches) : Pattern := altChain (b.next.before.reverse)

/-- The last item repeated; there is nothing to repeat at the front and after flags. -/
def repeatLast? (b : Branches) (low : Nat) (high : Option Nat) : Option Branches :=
  match b.items with
  | [] | .flags _ :: _ => none
  | p :: ps => some { b with items := .times p low high :: ps }

end Branches

/-- A group that is not closed yet: what was read before it, the flag for blanks there, and how the
group is made of its content. -/
structure OpenGroup where
  outer : Branches
  spaced : Bool
  wrap : Pattern → Pattern

/-- What has been read of a pattern: the group being read, the groups around it, the flag for
blanks, the names of groups, and the number of groups that capture. -/
structure Reading where
  branches : Branches := {}
  stack : List OpenGroup := []
  spaced : Bool := false
  names : List (List Char) := []
  captures : Nat := 0

namespace Reading

/-- Add an item. -/
def push (r : Reading) (p : Pattern) : Reading := { r with branches := r.branches.push p }

/-- Begin a group. -/
def enter (r : Reading) (spaced : Bool) (wrap : Pattern → Pattern) : Reading :=
  { r with branches := {}, stack := ⟨r.branches, r.spaced, wrap⟩ :: r.stack, spaced }

/-- Read what an opening bracket begins; the name of a group may be taken once. -/
def begin? (r : Reading) : GroupHead → Option Reading
  | .flags change =>
    some { r.push (.flags change) with spaced := spacedAfter change r.spaced }
  | .group change => some (r.enter (spacedAfter change r.spaced) (.group change))
  | .capture name =>
    if name.any r.names.contains then none
    else
      some { r.enter r.spaced (.capture (r.captures + 1)) with
        names := name.toList ++ r.names
        captures := r.captures + 1 }

/-- Close the group being read. -/
def close? (r : Reading) : Option Reading :=
  match r.stack with
  | [] => none
  | g :: stack =>
    some { r with
      branches := g.outer.push (g.wrap r.branches.finish)
      stack
      spaced := g.spaced }

end Reading

/-- One item that is neither a group nor a repetition. -/
def item? (spaced : Bool) (n : Nat) (c : Char) (rest : List Char) :
    Option (Pattern × List Char) :=
  match c with
  | '[' => bracketed? spaced n rest
  | '.' => some (.dot, rest)
  | '^' => some (.anchor .lineStart, rest)
  | '$' => some (.anchor .lineEnd, rest)
  | '\\' => escape? spaced n rest
  | c => some (.letter ⟨c, false⟩, rest)

/-- Read one item, or what stands between items. -/
def step? (r : Reading) (n : Nat) (c : Char) (rest : List Char) : Option (Reading × List Char) :=
  if c = '(' then do
    let (head, rest) ← groupHead? r.spaced rest
    return (← r.begin? head, rest)
  else if c = ')' then r.close?.map (·, rest)
  else if c = '|' then some ({ r with branches := r.branches.next }, rest)
  else if beginsRepetition c then do
    let (low, high, rest) ← bounds? r.spaced n c rest
    return ({ r with branches := ← r.branches.repeatLast? low high }, rest)
  else (item? r.spaced n c rest).map fun (p, rest) => (r.push p, rest)

/-- Read items to the end of the text, where no group may be open. -/
def read? : Nat → Reading → List Char → Option Pattern
  | 0, _, _ => none
  | n + 1, r, cs =>
    match skip r.spaced cs with
    | [] => if r.stack.isEmpty then some r.branches.finish else none
    | c :: rest =>
      match step? r n c rest with
      | some (r, rest) => read? n r rest
      | none => none

/-- How deep the parts of a pattern may be nested. -/
def heightLimit : Nat := 250

/-- **The pattern that a text denotes**, if it is one and is not nested too deep. -/
def parse? (text : String) : Option Pattern := do
  let p ← read? (text.length + 1) {} text.toList
  if p.height ≤ heightLimit then some p else none

end ExperimentQuery.Pattern
