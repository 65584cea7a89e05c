import ExperimentQuery.Regex.Basic

/-!
# Patterns as written

A pattern is written with groups, alternatives, repetitions, bracketed classes with set operations,
Perl and Unicode classes, anchors and flags. There is no look-around and there are no
back-references.

* `Flag`, `FlagChange`: flags that a pattern sets and clears;
* `PerlClass`, `PropertyQuery`, `ClassSet`: classes of characters;
* `Pattern`: a pattern;
* **`Pattern.height`**: how deep the parts of a pattern are nested.
-/

namespace ExperimentQuery

/-- A flag of patterns. -/
inductive Flag where
  | ignoreCase
  | multiLine
  | dotAll
  | swapGreed
  | unicode
  | crlf
  | spaced
  deriving Repr, DecidableEq

/-- The flag of a letter. -/
def Flag.ofChar? : Char → Option Flag
  | 'i' => some ignoreCase
  | 'm' => some multiLine
  | 's' => some dotAll
  | 'U' => some swapGreed
  | 'u' => some unicode
  | 'R' => some crlf
  | 'x' => some spaced
  | _ => none

/-- Flags and whether they are set or cleared. -/
abbrev FlagChange := List (Flag × Bool)

/-- A character written for itself or by its code; `byte` tells that it is written in two
hexadecimal digits without braces. -/
structure Letter where
  char : Char
  byte : Bool
  deriving Repr, DecidableEq

/-- A class named by one letter. -/
inductive PerlClass where
  | digit
  | space
  | word
  deriving Repr, DecidableEq

/-- A class of the character database: a name, or a property with its value. -/
inductive PropertyQuery where
  | name (name : List Char)
  | value (property value : List Char)
  deriving Repr, DecidableEq

/-- An operation on classes. -/
inductive SetOp where
  | inter
  | diff
  | symmDiff
  deriving Repr, DecidableEq

/-- What stands in the brackets of a class. Items that follow one another are chained by `join`. -/
inductive ClassSet where
  | empty
  | letter (l : Letter)
  | range (first last : Letter)
  | ascii (negated : Bool) (name : String)
  | perl (negated : Bool) (kind : PerlClass)
  | property (negated : Bool) (query : PropertyQuery)
  | bracketed (negated : Bool) (s : ClassSet)
  | join (a b : ClassSet)
  | op (o : SetOp) (a b : ClassSet)
  deriving Repr, DecidableEq

/-- An anchor or a side of a word. -/
inductive Anchor where
  | lineStart
  | lineEnd
  | textStart
  | textEnd
  | word (edge : WordEdge)
  deriving Repr, DecidableEq

/-- A pattern. Items that follow one another are chained by `seq`, and alternatives by `alt`. -/
inductive Pattern where
  | empty
  | flags (change : FlagChange)
  | letter (l : Letter)
  | dot
  | anchor (a : Anchor)
  | perl (negated : Bool) (kind : PerlClass)
  | property (negated : Bool) (query : PropertyQuery)
  | bracketed (negated : Bool) (s : ClassSet)
  | times (p : Pattern) (low : Nat) (high : Option Nat)
  | capture (index : Nat) (p : Pattern)
  | group (change : FlagChange) (p : Pattern)
  | seq (a b : Pattern)
  | alt (a b : Pattern)
  deriving Repr, DecidableEq

/-- Whether a class is a chain of items. -/
def ClassSet.isJoin : ClassSet → Bool
  | join _ _ => true
  | _ => false

/-- How deep the parts of a class are nested. A chain of items is one level. -/
def ClassSet.height : ClassSet → Nat
  | bracketed _ s => s.height + 1
  | join a b => max (a.height + 1) (if b.isJoin then b.height else b.height + 1)
  | op _ a b => max a.height b.height + 1
  | _ => 0

/-- Whether a pattern is a chain of items. -/
def Pattern.isSeq : Pattern → Bool
  | seq _ _ => true
  | _ => false

/-- Whether a pattern is a chain of alternatives. -/
def Pattern.isAlt : Pattern → Bool
  | alt _ _ => true
  | _ => false

/-- **How deep the parts of a pattern are nested.** A chain of items or of alternatives is one
level, and so is a repetition, a group and a class in brackets. -/
def Pattern.height : Pattern → Nat
  | bracketed _ s => s.height + 1
  | times p _ _ => p.height + 1
  | capture _ p => p.height + 1
  | group _ p => p.height + 1
  | seq a b => max (a.height + 1) (if b.isSeq then b.height else b.height + 1)
  | alt a b => max (a.height + 1) (if b.isAlt then b.height else b.height + 1)
  | _ => 0

end ExperimentQuery
