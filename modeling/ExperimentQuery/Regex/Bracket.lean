import ExperimentQuery.Regex.Escape

/-!
# Bracketed classes

A class in brackets holds characters, ranges, other classes and classes in brackets; operations
part it into operands.

* `ClassLevel`: what has been read between two brackets;
* `asciiClass?`: a class named between colons;
* `classItem?`: a character, a range or a class without brackets;
* **`bracketed?`**: a class up to the bracket that closes it.
-/

namespace ExperimentQuery.Pattern

open Unicode (isBlank)

/-! ## Levels -/

/-- What has been read between two brackets: whether the class is negated, the operand before the
one being read with the operation between them, and the items of this one, the last one first. -/
structure ClassLevel where
  negated : Bool
  pending : Option (ClassSet × SetOp) := none
  items : List ClassSet := []

namespace ClassLevel

/-- A chain of items. -/
def chain : List ClassSet → ClassSet
  | [] => .empty
  | [s] => s
  | s :: ss => .join s (chain ss)

/-- The class read so far. -/
def set (l : ClassLevel) : ClassSet :=
  let operand := chain l.items.reverse
  match l.pending with
  | none => operand
  | some (left, o) => .op o left operand

/-- Add an item. -/
def add (l : ClassLevel) (s : ClassSet) : ClassLevel := { l with items := s :: l.items }

/-- Begin the operand after an operation. -/
def begin (l : ClassLevel) (o : SetOp) : ClassLevel :=
  { negated := l.negated, pending := some (l.set, o) }

end ClassLevel

/-! ## Items -/

/-- The names of classes between colons. -/
def asciiClassNames : List String :=
  ["alnum", "alpha", "ascii", "blank", "cntrl", "digit", "graph", "lower", "print", "punct",
    "space", "upper", "word", "xdigit"]

/-- A class named between colons, after its opening bracket. -/
def asciiClass? : List Char → Option (ClassSet × List Char)
  | ':' :: cs =>
    let (negated, cs) := match cs with
      | '^' :: cs => (true, cs)
      | cs => (false, cs)
    match cs.span (· != ':') with
    | (name, ':' :: ']' :: rest) =>
      let name := String.ofList name
      if asciiClassNames.contains name then some (.ascii negated name, rest) else none
    | _ => none
  | _ => none

/-- A character or an escape. -/
def classPrimitive? (spaced : Bool) (n : Nat) : List Char → Option (Pattern × List Char)
  | [] => none
  | '\\' :: cs => escape? spaced n cs
  | c :: cs => some (.letter ⟨c, false⟩, cs)

/-- What an escape stands for in a class. -/
def classSet? : Pattern → Option ClassSet
  | .letter l => some (.letter l)
  | .perl negated kind => some (.perl negated kind)
  | .property negated query => some (.property negated query)
  | _ => none

/-- The character after a dash that decides whether the dash makes a range: blanks are passed over
where they do not count, and so is one sign of a comment. -/
def afterDash (spaced : Bool) (cs : List Char) : Option Char :=
  if spaced then
    match cs.dropWhile isBlank with
    | '#' :: cs => (cs.dropWhile isBlank).head?
    | cs => cs.head?
  else cs.head?

/-- An item: a character, a class without brackets, or a range of characters. -/
def classItem? (spaced : Bool) (n : Nat) (cs : List Char) : Option (ClassSet × List Char) := do
  let (first, rest) ← classPrimitive? spaced n cs
  match skip spaced rest with
  | [] => none
  | '-' :: after =>
    if afterDash spaced after = some ']' ∨ afterDash spaced after = some '-' then
      return (← classSet? first, '-' :: after)
    else
      match first, ← classPrimitive? spaced n (skip spaced after) with
      | .letter low, (.letter high, rest) =>
        if low.char ≤ high.char then some (.range low high, rest) else none
      | _, _ => none
  | rest => return (← classSet? first, rest)

/-! ## Classes -/

/-- Dashes at the front of a class, which stand for themselves. -/
def leadingDashes (spaced : Bool) : Nat → ClassLevel → List Char → ClassLevel × List Char
  | 0, l, cs => (l, cs)
  | n + 1, l, cs =>
    match skip spaced cs with
    | '-' :: cs => leadingDashes spaced n (l.add (.letter ⟨'-', false⟩)) cs
    | cs => (l, cs)

/-- What follows an opening bracket: whether the class is negated, and the items that stand for
themselves only at its front. -/
def classOpen (spaced : Bool) (n : Nat) (cs : List Char) : ClassLevel × List Char :=
  let (negated, cs) := match skip spaced cs with
    | '^' :: cs => (true, cs)
    | cs => (false, cs)
  match leadingDashes spaced n { negated } cs with
  | (⟨negated, pending, []⟩, ']' :: cs) =>
    (ClassLevel.add ⟨negated, pending, []⟩ (.letter ⟨']', false⟩), cs)
  | result => result

/-- The items of a class up to the bracket that closes it; `outer` holds the classes around it. -/
def classItems? (spaced : Bool) :
    Nat → ClassLevel → List ClassLevel → List Char → Option (Pattern × List Char)
  | 0, _, _, _ => none
  | n + 1, level, outer, cs =>
    match skip spaced cs with
    | [] => none
    | '[' :: rest =>
      match asciiClass? rest with
      | some (s, rest) => classItems? spaced n (level.add s) outer rest
      | none =>
        let (inner, rest) := classOpen spaced n rest
        classItems? spaced n inner (level :: outer) rest
    | ']' :: rest =>
      match outer with
      | [] => some (.bracketed level.negated level.set, rest)
      | up :: outer =>
        classItems? spaced n (up.add (.bracketed level.negated level.set)) outer rest
    | '&' :: '&' :: rest => classItems? spaced n (level.begin .inter) outer rest
    | '-' :: '-' :: rest => classItems? spaced n (level.begin .diff) outer rest
    | '~' :: '~' :: rest => classItems? spaced n (level.begin .symmDiff) outer rest
    | cs =>
      match classItem? spaced n cs with
      | some (s, rest) => classItems? spaced n (level.add s) outer rest
      | none => none

/-- **A class after its opening bracket**, up to the bracket that closes it. -/
def bracketed? (spaced : Bool) (n : Nat) (cs : List Char) : Option (Pattern × List Char) :=
  let (level, rest) := classOpen spaced n cs
  classItems? spaced n level [] rest

end ExperimentQuery.Pattern
