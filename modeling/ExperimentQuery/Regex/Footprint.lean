import Std.Data.HashMap
import ExperimentQuery.Regex.Build
import ExperimentQuery.Regex.Utf8

/-!
# The size of automata

An expression is matched by automata over bytes, one that reads forward and one that reads back,
and one whose automata take too much memory is refused. An automaton is a list of states; a state
that branches (a union) and a state that reads one of several bytes keep lists beside it.

* `Memory`, `Build`: the memory taken so far, and actions that take memory within the limit;
* `buildSet`, `buildWords`: the automata of sets of characters and of literals as alternatives;
* `Regex.build`: the automaton of an expression;
* **`Regex.fits`**: whether both automata stay within the limit.
-/

namespace ExperimentQuery

open Unicode (CodeSet ByteRange)

/-! ## Memory -/

/-- The states of an automaton, and the bytes of the lists beside them. -/
structure Memory where
  states : Nat := 0
  listBytes : Nat := 0
  deriving Repr, DecidableEq

/-- The bytes of an automaton: a state takes 32. -/
def Memory.bytes (m : Memory) : Nat := 32 * m.states + m.listBytes

/-- The bytes that an automaton may take. -/
def Memory.limit : Nat := 10 * Nat.pow 2 20

/-- An action that takes memory, and fails beyond the limit. -/
abbrev Build := StateT Memory Option

namespace Build

/-- Add states and bytes of lists. -/
def take (states listBytes : Nat) : Build Unit := fun m =>
  let m := { states := m.states + states, listBytes := m.listBytes + listBytes : Memory }
  if m.bytes ≤ Memory.limit then some ((), m) else none

/-- Add a state with the bytes of its list; the result is its number. -/
def state (listBytes : Nat) : Build Nat := do
  let m ← get
  take 1 listBytes
  return m.states

/-- Lead on from the end of an automaton, which lists where it leads if it is a union. -/
def leadOn (union : Bool) : Build Unit := if union then take 0 4 else pure ()

end Build

/-! ## Tables of states -/

/-- States that can be shared, with what they do, by slots. A slot holds one state, and another one
that falls into the slot takes its place. -/
structure StateTable (α : Type) where
  slots : Nat
  states : Std.HashMap Nat (α × Nat) := {}

namespace StateTable

/-- The hash of some numbers. -/
def hash (ns : List Nat) : UInt64 :=
  ns.foldl (fun h n => (h ^^^ UInt64.ofNat n) * 1099511628211) 14695981039346656037

/-- The state of a slot, if it does something given. -/
def find? {α : Type} [DecidableEq α] (t : StateTable α) (slot : Nat) (a : α) : Option Nat :=
  match t.states[slot]? with
  | some (b, id) => if a = b then some id else none
  | none => none

/-- The table with a state in a slot. -/
def insert {α : Type} (t : StateTable α) (slot : Nat) (a : α) (id : Nat) : StateTable α :=
  { t with states := t.states.insert slot (a, id) }

/-- The state that does something: one of the table, or else a new one. -/
def share {α : Type} [DecidableEq α] (t : StateTable α) (numbers : α → List Nat)
    (listBytes : Nat) (a : α) : Build (Nat × StateTable α) := do
  let slot := (hash (numbers a)).toNat % t.slots
  match t.find? slot a with
  | some id => return (id, t)
  | none =>
    let id ← Build.state listBytes
    return (id, t.insert slot a id)

end StateTable

/-! ## Sets of characters -/

/-- A way from a state: by a range of bytes to the state of a number. -/
structure Arc where
  bytes : ByteRange
  next : Nat
  deriving Repr, DecidableEq

/-- The numbers of some arcs. -/
def Arc.numbers (arcs : List Arc) : List Nat :=
  arcs.flatMap fun a => [a.bytes.first, a.bytes.last, a.next]

/-- Sequences of ranges, those that begin with the same range and follow one another put
together. -/
def groupHeads : List (List ByteRange) → List (ByteRange × List (List ByteRange))
  | [] => []
  | [] :: rest => groupHeads rest
  | (r :: tail) :: rest =>
    match groupHeads rest with
    | (s, tails) :: groups =>
      if r = s then (r, tail :: tails) :: groups else (r, [tail]) :: (s, tails) :: groups
    | [] => [(r, [tail])]

/-- The state from which sequences of at most `n` ranges lead to `target`. Equal states are
shared. -/
def buildSequences (target : Nat) :
    Nat → List (List ByteRange) → StateTable (List Arc) → Build (Nat × StateTable (List Arc))
  | 0, _, table => return (target, table)
  | n + 1, sequences, table =>
    if sequences = [[]] then return (target, table)
    else do
      let (arcs, table) ← (groupHeads sequences).foldlM
        (fun (arcs, table) (bytes, tails) => do
          let (next, table) ← buildSequences target n tails table
          return (⟨bytes, next⟩ :: arcs, table)) ([], table)
      table.share Arc.numbers (8 * arcs.length) arcs.reverse

/-- A set that is read forward: from its end back to its start, so that common ends are shared. -/
def buildSetForward (s : CodeSet) : Build Unit := do
  let target ← Build.state 0
  discard <| buildSequences target 5 s.byteRanges { slots := 10000 }

/-- A way to a state, by a range of bytes. -/
abbrev BackArc := Nat × ByteRange

/-- The numbers of a way to a state. -/
def BackArc.numbers (a : BackArc) : List Nat := [a.1, a.2.first, a.2.last]

/-- A set that is read back: a union of its sequences, whose first bytes are shared. -/
def buildSetBack (s : CodeSet) : Build Unit := do
  Build.take 1 0
  let target ← Build.state 0
  discard <| s.byteRanges.foldlM
    (fun table sequence => do
      let (_, table) ← sequence.foldlM
        (fun ((id, table) : Nat × StateTable BackArc) bytes =>
          table.share BackArc.numbers 0 (id, bytes)) (target, table)
      Build.take 0 4
      return table) { slots := 1000 }

/-- The automaton of a set of characters. One of ASCII alone is a state that leads to another. -/
def buildSet (back : Bool) (s : CodeSet) : Build Unit :=
  if s.isAscii then Build.take 2 (8 * s.ranges.length)
  else if back then buildSetBack s else buildSetForward s

/-! ## Literals as alternatives -/

/-- The bytes of a text. -/
def bytesOf (cs : List Char) : List Nat := cs.flatMap fun c => Unicode.utf8Bytes c.toNat

/-- The words between those that are empty. -/
def betweenEmpty : List (List Nat) → List (List (List Nat))
  | [] => [[]]
  | [] :: ws => [] :: betweenEmpty ws
  | w :: ws =>
    match betweenEmpty ws with
    | [] => [[w]]
    | run :: runs => (w :: run) :: runs

/-- The words at a node of a tree, in runs parted by those that end there; of several that end
before any goes on, one counts. -/
def runsOf (ws : List (List Nat)) : List (List (List Nat)) :=
  match ws with
  | [] :: ws => [] :: betweenEmpty (ws.dropWhile (· = []))
  | ws => betweenEmpty ws

/-- The tails of words by their first byte. -/
def byHead (ws : List (List Nat)) : List (List (List Nat)) :=
  (ws.filterMap List.head?).eraseDups.map fun b =>
    ws.filterMap fun
      | [] => none
      | c :: tail => if c = b then some tail else none

/-- The tree of words of at most `n` bytes. A node is a union of its runs and of the ends between
them; a run is a state with an arc for each byte. -/
def buildWords : Nat → List (List Nat) → Build Unit
  | 0, _ => pure ()
  | n + 1, ws =>
    if ws.all (· = []) then pure ()
    else do
      let runs := runsOf ws
      let groups := (runs.map byHead).filter (· ≠ [])
      groups.forM fun group => do
        group.forM (buildWords n)
        Build.take 1 (if group.length = 1 then 0 else 8 * group.length)
      Build.take 1 (4 * (groups.length + runs.length - 1))

namespace Regex

/-- The text of a literal. -/
def literal? : Regex → Option (List Char)
  | literal cs => some cs
  | _ => none

/-- The automaton of literals that are alternatives: a tree of their bytes that leads to a common
end. -/
def buildLiterals (back : Bool) (words : List (List Char)) : Build Unit := do
  let words := words.map fun cs => if back then (bytesOf cs).reverse else bytesOf cs
  Build.take 1 0
  buildWords (words.foldl (fun n w => max n w.length) 0 + 1) words

/-! ## Automata -/

/-- The place of an automaton: on its own, or as the first, the second or a later one of some
alternatives. -/
inductive Branch where
  | alone
  | first
  | second
  | later
  deriving Repr, DecidableEq

/-- Put an automaton in its place. The union of alternatives and their common end are made after
the second one. -/
def Branch.close (b : Branch) (union : Bool) : Build Bool := do
  match b with
  | alone => return union
  | second => Build.take 2 0
  | first | later => pure ()
  Build.take 0 4
  Build.leadOn union
  return false

/-- Copies of an automaton after a first one, `n` of them; the result tells whether the last one
ends in a union. -/
def moreCopies (one : Build Bool) : Nat → Bool → Build Bool
  | 0, union => return union
  | n + 1, union => do
    Build.leadOn union
    let union ← one
    moreCopies one n union

/-- Copies of an automaton that follow one another. -/
def copies (one : Build Bool) : Nat → Build Bool
  | 0 => do
    Build.take 1 0
    return false
  | n + 1 => do
    let union ← one
    moreCopies one n union

/-- Optional copies of an automaton after one another, `n` of them. -/
def optionalCopies (one : Build Bool) : Nat → Bool → Build Unit
  | 0, union => Build.leadOn union
  | n + 1, union => do
    Build.take 1 0
    let next ← one
    Build.take 0 8
    Build.leadOn union
    optionalCopies one n next

/-- The automaton of a repetition; `nonempty` tells that what is repeated never matches the empty
text. The result tells whether it ends in a union. -/
def repetition (one : Build Bool) (nonempty : Bool) (low : Nat) (high : Option Nat) :
    Build Bool := do
  match low, high with
  | 0, some 1 =>
    Build.take 1 0
    let union ← one
    Build.take 1 8
    Build.leadOn union
    return false
  | 0, none =>
    if nonempty then
      Build.take 1 0
      let union ← one
      Build.take 0 4
      Build.leadOn union
      return true
    else
      let union ← one
      Build.leadOn union
      Build.take 3 16
      return false
  | n + 1, none =>
    let union ← copies one (n + 1)
    Build.leadOn union
    Build.take 1 4
    return true
  | low, some high =>
    let union ← copies one low
    if low = high then return union
    Build.take 1 0
    optionalCopies one (high - low) union
    return false

/-- The automaton of an expression, read forward or back; the result tells whether it ends in a
union. Groups leave marks when they are read forward. -/
def build (back : Bool) : Branch → Regex → Build Bool
  | b, empty => do
    Build.take 1 0
    b.close false
  | b, literal cs => do
    Build.take (bytesOf cs).length 0
    b.close false
  | b, set s => do
    buildSet back s
    b.close false
  | b, look _ => do
    Build.take 1 0
    b.close false
  | b, times r low high => do
    let union ← repetition (r.build back .alone) (r.minLength.any (0 < ·)) low high
    b.close union
  | b, group _ r => do
    if back then b.close (← r.build back .alone)
    else
      Build.take 1 0
      let union ← r.build back .alone
      Build.leadOn union
      Build.take 1 0
      b.close false
  | b, seq r s => do
    let first := if back then s.build back .alone else r.build back .alone
    let second := if back then r.build back .alone else s.build back .alone
    Build.leadOn (← first)
    b.close (← second)
  | .alone, alt r s => do
    match (alt r s).branches.mapM literal? with
    | some words => buildLiterals back words
    | none =>
      discard <| r.build back .first
      discard <| s.build back .second
    return false
  | .first, alt r s => do
    discard <| r.build back .first
    s.build back .second
  | .second, alt r s => do
    discard <| r.build back .second
    s.build back .later
  | .later, alt r s => do
    discard <| r.build back .later
    s.build back .later

/-- Whether an expression matches from the start of a text only. -/
def fromStart : Regex → Bool
  | look l => l = .textStart
  | times r low _ => 0 < low && r.fromStart
  | group _ r => r.fromStart
  | seq a b => a.fromStart || (a.isEmptyOnly && b.fromStart)
  | alt a b => a.fromStart && b.fromStart
  | _ => false

/-- Whether an expression matches to the end of a text only. -/
def toEnd : Regex → Bool
  | look l => l = .textEnd
  | times r low _ => 0 < low && r.toEnd
  | group _ r => r.toEnd
  | seq a b => b.toEnd || (b.isEmptyOnly && a.toEnd)
  | alt a b => a.toEnd && b.toEnd
  | _ => false

/-- The automaton that finds an expression in a text: before it stands a loop over any bytes,
unless the expression is bound to where the text is read from, and after it the state that ends the
search. Read forward, it is a group. -/
def buildSearch (back : Bool) (r : Regex) : Build Unit := do
  if (if back then r.toEnd else r.fromStart) then Build.take 1 0 else Build.take 3 16
  let union ← (if back then r else group 0 r).build back .alone
  Build.leadOn union
  Build.take 1 0

/-- **Whether the automata of an expression stay within the limit.** -/
def fits (r : Regex) : Bool :=
  ((r.buildSearch false).run {}).isSome && ((r.buildSearch true).run {}).isSome

end Regex

end ExperimentQuery
