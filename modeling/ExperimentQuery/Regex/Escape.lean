import ExperimentQuery.Unicode.CodePoint
import ExperimentQuery.Regex.Pattern

/-!
# Blanks and escapes in patterns

Where the flag for it is set, blanks and comments in a pattern do not count. A backslash introduces
a character, a class or a side of a word.

* `skip`: passes over what does not count;
* `hexEscape?`, `propertyEscape?`, `edgeEscape?`: escapes with a content of their own;
* **`escape?`**: what a backslash introduces.

Readers give what they read and the rest of the text, or nothing if the text is not a pattern. A
number `n` given to a reader is a bound on the characters left.
-/

namespace ExperimentQuery.Pattern

open Unicode (isBlank hexDigit?)

/-! ## Blanks -/

/-- Pass over blanks and comments; the first argument tells whether a comment is open. -/
def skipBlanks : Bool → List Char → List Char
  | _, [] => []
  | true, c :: cs => if c = '\n' then skipBlanks false cs else skipBlanks true cs
  | false, c :: cs =>
    if isBlank c then skipBlanks false cs
    else if c = '#' then skipBlanks true cs
    else c :: cs

/-- Pass over blanks and comments where they do not count. -/
def skip (spaced : Bool) (cs : List Char) : List Char := if spaced then skipBlanks false cs else cs

/-- The content of braces after the opening one, without what does not count. -/
def braced? (spaced : Bool) : Nat → List Char → Option (List Char × List Char)
  | 0, _ => none
  | n + 1, cs =>
    match skip spaced cs with
    | [] => none
    | '\x7d' :: rest => some ([], rest)
    | c :: rest => (braced? spaced n rest).map fun (content, rest) => (c :: content, rest)

/-! ## Characters by their codes -/

/-- A number of hexadecimal digits, with what does not count between them. -/
def hexDigits? (spaced : Bool) : Nat → List Char → Option (List Char × List Char)
  | 0, cs => some ([], cs)
  | n + 1, cs =>
    match skip spaced cs with
    | [] => none
    | c :: rest => (hexDigits? spaced n rest).map fun (ds, rest) => (c :: ds, rest)

/-- A character by its code: in braces, or in as many digits as the letter of the escape asks
for. -/
def hexEscape? (spaced : Bool) (n digits : Nat) (cs : List Char) :
    Option (Letter × List Char) := do
  let (isBraced, ds, rest) ← match skip spaced cs with
    | '\x7b' :: cs => (braced? spaced n cs).map fun (ds, rest) => (true, ds, rest)
    | cs => (hexDigits? spaced digits cs).map fun (ds, rest) => (false, ds, rest)
  let c ← Unicode.char? (← Unicode.hex? ds)
  return (⟨c, !isBraced && digits = 2⟩, rest)

/-! ## Classes of the character database -/

/-- A text cut at the first occurrence of a word. -/
def cutAt? (word : List Char) : List Char → Option (List Char × List Char)
  | [] => none
  | c :: cs =>
    if word.isPrefixOf (c :: cs) then some ([], (c :: cs).drop word.length)
    else (cutAt? word cs).map fun (a, b) => (c :: a, b)

/-- The class of the content of braces, and whether its value is one that it must not have. -/
def propertyQuery (content : List Char) : Bool × PropertyQuery :=
  match cutAt? ['!', '='] content, cutAt? [':'] content, cutAt? ['='] content with
  | some (p, v), _, _ => (true, .value p v)
  | none, some (p, v), _ => (false, .value p v)
  | none, none, some (p, v) => (false, .value p v)
  | none, none, none => (false, .name content)

/-- A class of the character database: a letter, or a name in braces. -/
def propertyEscape? (spaced : Bool) (n : Nat) (cs : List Char) :
    Option ((Bool × PropertyQuery) × List Char) :=
  match skip spaced cs with
  | [] => none
  | '\\' :: _ => none
  | '\x7b' :: cs => (braced? spaced n cs).map fun (content, rest) => (propertyQuery content, rest)
  | c :: cs => some ((false, .name [c]), cs)

/-! ## Sides of a word -/

/-- Whether a character can stand in the name of a side of a word. -/
def isEdgeChar (c : Char) : Bool := c.isAlpha || c == '-'

/-- The side of a word with this name. -/
def edge? (name : String) : Option WordEdge :=
  match name with
  | "start" => some .start
  | "end" => some .stop
  | "start-half" => some .startHalf
  | "end-half" => some .stopHalf
  | _ => none

/-- The side of a word after its escape: one named in braces, or any. What does not begin like a
name in braces is left for a repetition to read. -/
def edgeEscape? (spaced : Bool) (n : Nat) (cs : List Char) : Option (WordEdge × List Char) :=
  match cs with
  | '\x7b' :: inner =>
    match skip spaced inner with
    | [] => none
    | c :: _ =>
      if isEdgeChar c then do
        let (name, rest) ← braced? spaced n inner
        if name.all isEdgeChar then return (← edge? (String.ofList name), rest) else none
      else some (.boundary, cs)
  | cs => some (.boundary, cs)

/-! ## Escapes -/

/-- Whether a character has a meaning of its own in patterns. -/
def isMeta (c : Char) : Bool := "\\.+*?()|[]\x7b\x7d^$#&-~".toList.contains c

/-- Whether a character may follow a backslash to stand for itself. -/
def isEscapable (c : Char) : Bool :=
  isMeta c || (c.toNat < 128 && !c.isAlphanum && c != '<' && c != '>')

/-- The control character of a letter. -/
def control? : Char → Option Char
  | 'a' => some '\x07'
  | 'f' => some '\x0c'
  | 't' => some '\t'
  | 'n' => some '\n'
  | 'r' => some '\r'
  | 'v' => some '\x0b'
  | _ => none

/-- The Perl class of a letter, negated in capitals. -/
def perlClass? : Char → Option (Bool × PerlClass)
  | 'd' => some (false, .digit)
  | 's' => some (false, .space)
  | 'w' => some (false, .word)
  | 'D' => some (true, .digit)
  | 'S' => some (true, .space)
  | 'W' => some (true, .word)
  | _ => none

/-- The anchor of a letter or an angle. -/
def anchor? : Char → Option Anchor
  | 'A' => some .textStart
  | 'z' => some .textEnd
  | 'B' => some (.word .notBoundary)
  | '<' => some (.word .start)
  | '>' => some (.word .stop)
  | _ => none

/-- The number of hexadecimal digits that the letter of an escape asks for. -/
def hexWidth? : Char → Option Nat
  | 'x' => some 2
  | 'u' => some 4
  | 'U' => some 8
  | _ => none

/-- **What a backslash introduces.** -/
def escape? (spaced : Bool) (n : Nat) (cs : List Char) : Option (Pattern × List Char) :=
  match cs with
  | [] => none
  | c :: rest =>
    if isEscapable c then some (.letter ⟨c, false⟩, rest)
    else if c = 'p' ∨ c = 'P' then
      (propertyEscape? spaced n rest).map fun ((unequal, query), rest) =>
        (.property (unequal != (c == 'P')) query, rest)
    else if c = 'b' then (edgeEscape? spaced n rest).map fun (e, rest) => (.anchor (.word e), rest)
    else
      match hexWidth? c, control? c, perlClass? c, anchor? c with
      | some digits, _, _, _ =>
        (hexEscape? spaced n digits rest).map fun (l, rest) => (.letter l, rest)
      | _, some c, _, _ => some (.letter ⟨c, false⟩, rest)
      | _, _, some (negated, kind), _ => some (.perl negated kind, rest)
      | _, _, _, some a => some (.anchor a, rest)
      | _, _, _, _ => none

end ExperimentQuery.Pattern
