import ExperimentQuery.Unicode.Query
import ExperimentQuery.Unicode.CaseFolding
import ExperimentQuery.Regex.Footprint
import ExperimentQuery.Regex.Parser

/-!
# The meaning of patterns

A pattern stands for a regular expression. Flags hold from where they are set to the end of their
group, alternatives included. Without the flag for Unicode, letters and classes are those of ASCII,
and what could match a part of a character is refused.

* `Flags`: the flags in force;
* `asciiCodes?`, `perlCodes?`, `propertyCodes?`, `ClassSet.codes?`: the characters of classes;
* **`Pattern.regex?`**: the expression that a pattern stands for;
* **`Regex.parse?`**: the expression that a text denotes.
-/

namespace ExperimentQuery

open Unicode (CodeSet NamedSet)

/-! ## Flags -/

/-- The flags in force. -/
structure Flags where
  ignoreCase : Bool := false
  multiLine : Bool := false
  dotAll : Bool := false
  crlf : Bool := false
  unicode : Bool := true
  deriving Repr, DecidableEq

namespace Flags

/-- A flag set or cleared. Which of several ways a repetition takes does not count here, nor do
the blanks that were passed over. -/
def set (f : Flags) : Flag × Bool → Flags
  | (.ignoreCase, v) => { f with ignoreCase := v }
  | (.multiLine, v) => { f with multiLine := v }
  | (.dotAll, v) => { f with dotAll := v }
  | (.crlf, v) => { f with crlf := v }
  | (.unicode, v) => { f with unicode := v }
  | (.swapGreed, _) | (.spaced, _) => f

/-- Flags after a change. -/
def apply (f : Flags) (change : FlagChange) : Flags := change.foldl set f

/-- A set closed under case variants, if case does not count. -/
def closeCase (f : Flags) (s : CodeSet) : CodeSet :=
  if !f.ignoreCase then s else if f.unicode then s.closeCase else s.closeAsciiCase

/-- A set or its complement, closed under case variants first. Without Unicode there are no
complements. -/
def complement? (f : Flags) (negated : Bool) (s : CodeSet) : Option CodeSet :=
  if negated && !f.unicode then none else some ((f.closeCase s).complIf negated)

end Flags

/-! ## Classes -/

/-- The classes named between colons. -/
def asciiClasses : List NamedSet := [
  ⟨["alnum"], .table "30-39 41-5A 61-7A"⟩,
  ⟨["alpha"], .table "41-5A 61-7A"⟩,
  ⟨["ascii"], .table "0-7F"⟩,
  ⟨["blank"], .table "9 20"⟩,
  ⟨["cntrl"], .table "0-1F 7F"⟩,
  ⟨["digit"], .table "30-39"⟩,
  ⟨["graph"], .table "21-7E"⟩,
  ⟨["lower"], .table "61-7A"⟩,
  ⟨["print"], .table "20-7E"⟩,
  ⟨["punct"], .table "21-2F 3A-40 5B-60 7B-7E"⟩,
  ⟨["space"], .table "9-D 20"⟩,
  ⟨["upper"], .table "41-5A"⟩,
  ⟨["word"], .table "30-39 41-5A 5F 61-7A"⟩,
  ⟨["xdigit"], .table "30-39 41-46 61-66"⟩]

/-- The characters of a class named between colons. -/
def asciiCodes? (name : String) : Option CodeSet :=
  (NamedSet.find? asciiClasses name).map (·.codes)

/-- The characters of a class of one letter. -/
def perlSet? (unicode : Bool) (kind : PerlClass) : Option CodeSet :=
  match unicode, kind with
  | true, .digit => some Unicode.Category.decimalNumber.codes
  | true, .space => some Unicode.Property.whiteSpace.codes
  | true, .word => some Unicode.wordSet
  | false, .digit => asciiCodes? "digit"
  | false, .space => asciiCodes? "space"
  | false, .word => asciiCodes? "word"

/-- The characters of a class of one letter or of their complement, which there is only with
Unicode. -/
def perlCodes? (f : Flags) (negated : Bool) (kind : PerlClass) : Option CodeSet :=
  if negated && !f.unicode then none
  else (perlSet? f.unicode kind).map (·.complIf negated)

/-- The characters of a class of the character database. -/
def PropertyQuery.codes? (q : PropertyQuery) : Option CodeSet :=
  let set := match q with
    | name n => Unicode.setOfName? n
    | value p v => Unicode.setOfValue? p v
  set.map (·.codes)

/-- The characters of a class of the character database or of their complement, with Unicode. -/
def propertyCodes? (f : Flags) (negated : Bool) (q : PropertyQuery) : Option CodeSet :=
  if f.unicode then q.codes?.bind (f.complement? negated) else none

/-- A character of a class, which is one of ASCII without Unicode. -/
def Letter.classChar? (f : Flags) (l : Letter) : Option Char :=
  if f.unicode || l.char.toNat < 128 then some l.char else none

/-- The set of an operation. -/
def SetOp.apply (a b : CodeSet) : SetOp → CodeSet
  | inter => a.inter b
  | diff => a.diff b
  | symmDiff => a.symmDiff b

/-- The characters of a class. Operands are closed under case variants before the operation. -/
def ClassSet.codes? (f : Flags) : ClassSet → Option CodeSet
  | empty => some .empty
  | letter l => (l.classChar? f).map .single
  | range first last => do return .range (← first.classChar? f) (← last.classChar? f)
  | ascii negated name => (asciiCodes? name).bind (f.complement? negated)
  | perl negated kind => perlCodes? f negated kind
  | property negated query => propertyCodes? f negated query
  | bracketed negated s => (s.codes? f).bind (f.complement? negated)
  | join a b => do return (← a.codes? f).union (← b.codes? f)
  | op o a b => do return o.apply (f.closeCase (← a.codes? f)) (f.closeCase (← b.codes? f))

/-! ## Single items -/

/-- The expression of a letter. Without Unicode, a letter written as a byte is one of ASCII. -/
def Letter.regex? (f : Flags) (l : Letter) : Option Regex :=
  let ascii := l.char.toNat < 128
  if !f.unicode && l.byte && !ascii then none
  else if f.unicode || ascii then some (.ofSet (f.closeCase (.single l.char)))
  else some (.literal [l.char])

/-- The expression of a dot: any character, or any but those that end a line. -/
def dotRegex? (f : Flags) : Option Regex :=
  if !f.unicode then none
  else if f.dotAll then some (.set .all)
  else if f.crlf then some (.set (CodeSet.ofTable "A D").compl)
  else some (.set (CodeSet.ofTable "A").compl)

/-- The condition of an anchor. -/
def Anchor.look (f : Flags) : Anchor → Look
  | lineStart => if !f.multiLine then .textStart else if f.crlf then .crlfLineStart else .lineStart
  | lineEnd => if !f.multiLine then .textEnd else if f.crlf then .crlfLineEnd else .lineEnd
  | textStart => .textStart
  | textEnd => .textEnd
  | word edge => .word f.unicode edge

/-! ## Patterns -/

namespace Pattern

/-- The branches that a pattern stands for, and the flags in force after it. -/
def branches? (f : Flags) : Pattern → Option (List Regex × Flags)
  | empty => some ([.empty], f)
  | flags change => some ([.empty], f.apply change)
  | letter l => (l.regex? f).map fun r => ([r], f)
  | dot => (dotRegex? f).map fun r => ([r], f)
  | anchor a => some ([.look (a.look f)], f)
  | perl negated kind => (perlCodes? f negated kind).map fun s => ([.ofSet s], f)
  | property negated query => (propertyCodes? f negated query).map fun s => ([.ofSet s], f)
  | bracketed negated s =>
    ((s.codes? f).bind (f.complement? negated)).map fun s => ([.ofSet s], f)
  | times p low high => do
    let (rs, f) ← p.branches? f
    return ([(Regex.ofBranches rs).repeated low high], f)
  | capture index p => do
    let (rs, _) ← p.branches? f
    return ([.group index (.ofBranches rs)], f)
  | group change p => do
    let (rs, _) ← p.branches? (f.apply change)
    return ([.ofBranches rs], f)
  | seq a b => do
    let (rs, f) ← a.branches? f
    let (ss, f) ← b.branches? f
    return ([.ofParts [.ofBranches rs, .ofBranches ss]], f)
  | alt a b => do
    let (rs, f) ← a.branches? f
    let (ss, f) ← b.branches? f
    return (rs ++ ss, f)

/-- **The expression that a pattern stands for.** -/
def regex? (p : Pattern) : Option Regex := (p.branches? {}).map fun (rs, _) => .ofBranches rs

end Pattern

/-- **The regular expression that a text denotes.** A text that is no pattern denotes none, and so
does a pattern whose parts have no meaning together or whose automata take too much memory. -/
def Regex.parse? (text : String) : Option Regex := do
  let r ← (← Pattern.parse? text).regex?
  if r.fits then some r else none

end ExperimentQuery
