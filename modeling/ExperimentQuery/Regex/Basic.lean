import ExperimentQuery.Unicode.Word

/-!
# Matching

A regular expression is matched by following the set of positions that it can reach. Positions
stand between the characters of a text; a set of positions is one truth value for each, and each
expression maps the positions where it starts to the positions where it can end.

* `Place`, `places`: the positions of a text with the characters on either side;
* `Look`, `Look.holds`: conditions on a position;
* `Regex`, `Regex.ends`: expressions and the positions they reach;
* **`Regex.isMatch`**: whether an expression matches some part of a text.
-/

namespace ExperimentQuery

open Unicode (CodeSet)

/-- A position of a text: the characters before and after it. -/
structure Place where
  before : Option Char
  after : Option Char
  deriving Repr, DecidableEq

/-- The positions of a text that follows a character. -/
def placesAfter (before : Option Char) : List Char → List Place
  | [] => [⟨before, none⟩]
  | c :: cs => ⟨before, some c⟩ :: placesAfter (some c) cs

/-- The positions of a text, one more than its characters. -/
def places (cs : List Char) : List Place := placesAfter none cs

/-- Which side of a word a position must be on. -/
inductive WordEdge where
  | boundary
  | notBoundary
  | start
  | stop
  | startHalf
  | stopHalf
  deriving Repr, DecidableEq

/-- A condition on a position. -/
inductive Look where
  | textStart
  | textEnd
  | lineStart
  | lineEnd
  | crlfLineStart
  | crlfLineEnd
  /-- A side of a word, in all scripts or in ASCII alone. -/
  | word (unicode : Bool) (edge : WordEdge)
  deriving Repr, DecidableEq

/-- Whether a character stands in a word, in all scripts or in ASCII alone. -/
def isWordChar (unicode : Bool) (c : Char) : Bool :=
  if unicode then Unicode.isWord c else c.isAlphanum || c == '_'

/-- Whether a position is on a side of a word; `before` and `after` tell whether the characters
around it stand in a word. -/
def WordEdge.holds (before after : Bool) : WordEdge → Bool
  | boundary => before != after
  | notBoundary => before == after
  | start => !before && after
  | stop => before && !after
  | startHalf => !before
  | stopHalf => !after

/-- Whether a condition holds at a position. -/
def Look.holds (p : Place) : Look → Bool
  | textStart => p.before.isNone
  | textEnd => p.after.isNone
  | lineStart => p.before.isNone || p.before == some '\n'
  | lineEnd => p.after.isNone || p.after == some '\n'
  | crlfLineStart =>
    p.before.isNone || p.before == some '\n' ||
      (p.before == some '\r' && p.after != some '\n')
  | crlfLineEnd =>
    p.after.isNone || p.after == some '\r' ||
      (p.after == some '\n' && p.before != some '\r')
  | word unicode edge => edge.holds (p.before.any (isWordChar unicode))
      (p.after.any (isWordChar unicode))

/-- A regular expression; only what it matches counts, not which of several ways. -/
inductive Regex where
  | empty
  | literal (cs : List Char)
  | set (s : CodeSet)
  | look (l : Look)
  | times (r : Regex) (low : Nat) (high : Option Nat)
  | group (index : Nat) (r : Regex)
  | seq (a b : Regex)
  | alt (a b : Regex)
  deriving Repr, DecidableEq

/-- A set of positions: for each position of a text, whether it is in the set. -/
abbrev Positions := List Bool

namespace Positions

/-- The positions in either set. -/
def union (a b : Positions) : Positions := List.zipWith or a b

/-- The positions after one character that passes a test. -/
def step (test : Char → Bool) (ps : List Place) (a : Positions) : Positions :=
  false :: (List.zipWith (fun p x => x && p.after.any test) ps a).dropLast

/-- The positions after some characters; it ends early when nothing is left. -/
def follow (ps : List Place) : List Char → Positions → Positions
  | [], a => a
  | c :: cs, a => if a.any id then follow ps cs (step (· == c) ps a) else a

/-- The positions where a condition holds. -/
def restrict (l : Look) (ps : List Place) (a : Positions) : Positions :=
  List.zipWith (fun p x => x && l.holds p) ps a

/-- A step taken `n` times; it ends early when nothing changes. -/
def iterate (f : Positions → Positions) : Nat → Positions → Positions
  | 0, a => a
  | n + 1, a =>
    let b := f a
    if b = a then a else iterate f n b

/-- A step taken up to `n` times; it ends early when nothing is added. -/
def reach (f : Positions → Positions) : Nat → Positions → Positions
  | 0, a => a
  | n + 1, a =>
    let b := union a (f a)
    if b = a then a else reach f n b

end Positions

namespace Regex

/-- The positions where an expression can end when it starts at some positions. Of a text with `n`
positions, more than `n` rounds of a repetition reach nothing new. -/
def ends (ps : List Place) : Regex → Positions → Positions
  | empty, a => a
  | literal cs, a => Positions.follow ps cs a
  | set s, a => Positions.step s.has ps a
  | look l, a => Positions.restrict l ps a
  | times r low high, a =>
    let rounds := match high with
      | none => ps.length
      | some high => min ps.length (high - low)
    Positions.reach (r.ends ps) rounds (Positions.iterate (r.ends ps) low a)
  | group _ r, a => r.ends ps a
  | seq r s, a => s.ends ps (r.ends ps a)
  | alt r s, a => Positions.union (r.ends ps a) (s.ends ps a)

/-- **Whether an expression matches some part of a text.** -/
def isMatch (r : Regex) (text : String) : Bool :=
  let ps := places text.toList
  (r.ends ps (ps.map fun _ => true)).any id

end Regex

end ExperimentQuery
