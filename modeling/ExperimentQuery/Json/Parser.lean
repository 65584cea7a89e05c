import ExperimentQuery.Codec.Bytes
import ExperimentQuery.Unicode.CodePoint
import ExperimentQuery.Json.Numeral
import ExperimentQuery.Text.Basic

/-!
# Reading JSON text

A recursive descent over the characters. Objects keep their members as written. Arrays and objects
nest at most 127 deep. Each call takes at least one character, so that a fuel of the text's length
is never used up.

A record passes over the members that it does not know, and it does not look at what they hold: the
grammar is all that they must keep. Texts of records are therefore read with their flaws. A byte of
no character is a flaw of the string that it stands in, and wrong anywhere else.

* `Json.stringBody`, `Json.text?`: the content of a string and its text;
* `Json.value`, `Json.itemsFrom`, `Json.membersFrom`: the grammar;
* **`Json.parseWithFlaws?`**: the value that a text holds, with white space around it;
* **`Json.parse?`**: the same without flaws;
* `Json.textOfBytes`, **`Json.parseBytesWithFlaws?`**: the value that bytes hold.
-/

namespace ExperimentQuery.Json

/-- White space between tokens. -/
def isSpace (c : Char) : Bool := c == ' ' || c == '\n' || c == '\t' || c == '\r'

/-- A text without the white space before it. -/
def skipSpace (cs : List Char) : List Char := cs.dropWhile isSpace

/-! ## Strings -/

/-- The character that stands after a backslash for another one. -/
def shortEscape? (c : Char) : Option Char :=
  match c with
  | '"' => some '"'
  | '\\' => some '\\'
  | '/' => some '/'
  | 'b' => some '\x08'
  | 'f' => some '\x0c'
  | 'n' => some '\n'
  | 'r' => some '\r'
  | 't' => some '\t'
  | _ => none

/-- The value of four hexadecimal digits. -/
def hex4? (a b c d : Char) : Option Nat := Unicode.hex? [a, b, c, d]

/-- The character of a pair of surrogates. -/
def surrogatePair? (high low : Nat) : Option Char :=
  if 0xD800 ≤ high ∧ high < 0xDC00 ∧ 0xDC00 ≤ low ∧ low < 0xE000 then
    some (Char.ofNat (0x10000 + (high - 0xD800) * 0x400 + (low - 0xDC00)))
  else none

/-- Whether a number is one of the halves of a pair. -/
def isSurrogate (n : Nat) : Bool := 0xD800 ≤ n && n < 0xE000

/-- The content of a string and what follows its closing quote, each character by its number and
those of a pair by the two halves. -/
def stringBody : List Char → Option (List Nat × List Char)
  | [] => none
  | '"' :: rest => some ([], rest)
  | '\\' :: 'u' :: a :: b :: c :: d :: rest => do
    let n ← hex4? a b c d
    let (units, rest) ← stringBody rest
    return (n :: units, rest)
  | '\\' :: c :: rest => do
    let ch ← shortEscape? c
    let (units, rest) ← stringBody rest
    return (ch.toNat :: units, rest)
  | c :: rest =>
    if c.toNat < 0x20 ∨ c = '\\' then none
    else (stringBody rest).map fun (units, rest) => (c.toNat :: units, rest)

/-- The characters of numbers, if each half of a pair stands with the other one. -/
def joinPairs? : List Nat → Option (List Char)
  | [] => some []
  | n :: units =>
    if isSurrogate n then
      match units with
      | [] => none
      | m :: units => do
        let ch ← surrogatePair? n m
        return ch :: (← joinPairs? units)
    else (joinPairs? units).map (Char.ofNat n :: ·)

/-- The text of numbers. -/
def text? (units : List Nat) : Option String := (joinPairs? units).map String.ofList

/-! ## Values -/

/-- What follows a word at the front of a text, for the value that the word stands for. -/
def word (name : String) (v : Json) (cs : List Char) : Option (Json × List Char) :=
  (Text.stripWord? name.toList cs).map fun rest => (v, rest)

/-- The greatest number of arrays and objects within each other. -/
def depthLimit : Nat := 127

/-- A string, or a flaw where it has no text. -/
def ofUnits (units : List Nat) : Json := (text? units).elim flaw str

/-- An object, or a flaw where a name has no text. -/
def ofMembers (members : List (Option String × Json)) : Json :=
  match members.mapM fun (name, v) => name.map fun name => (name, v) with
  | some ms => obj ms
  | none => flaw

/-- A value with levels below it, if `depth` more levels may be opened. -/
def atDepth (depth : Nat) (v : Json) : Json := if depth = 0 then flaw else v

mutual

/-- The value at the front of a text without white space before it; `depth` more levels may be
opened. -/
def value : Nat → Nat → List Char → Option (Json × List Char)
  | 0, _, _ => none
  | fuel + 1, depth, cs =>
    match cs with
    | 'n' :: _ => word "null" null cs
    | 't' :: _ => word "true" (bool true) cs
    | 'f' :: _ => word "false" (bool false) cs
    | '"' :: rest => (stringBody rest).map fun (units, rest) => (ofUnits units, rest)
    | '[' :: rest =>
      match skipSpace rest with
      | ']' :: rest => some (atDepth depth (arr []), rest)
      | rest => (itemsFrom fuel (depth - 1) rest).map fun (items, rest) =>
          (atDepth depth (arr items), rest)
    | '\x7b' :: rest =>
      match skipSpace rest with
      | '\x7d' :: rest => some (atDepth depth (obj []), rest)
      | rest => (membersFrom fuel (depth - 1) rest).map fun (members, rest) =>
          (atDepth depth (ofMembers members), rest)
    | cs => numeral cs

/-- Items up to the closing bracket. -/
def itemsFrom : Nat → Nat → List Char → Option (List Json × List Char)
  | 0, _, _ => none
  | fuel + 1, depth, cs => do
    let (v, rest) ← value fuel depth cs
    match skipSpace rest with
    | ']' :: rest => return ([v], rest)
    | ',' :: rest =>
      let (vs, rest) ← itemsFrom fuel depth (skipSpace rest)
      return (v :: vs, rest)
    | _ => none

/-- Members up to the closing brace. -/
def membersFrom : Nat → Nat → List Char → Option (List (Option String × Json) × List Char)
  | 0, _, _ => none
  | fuel + 1, depth, cs => do
    match cs with
    | '"' :: rest =>
      let (name, rest) ← stringBody rest
      match skipSpace rest with
      | ':' :: rest =>
        let (v, rest) ← value fuel depth (skipSpace rest)
        let m := (text? name, v)
        match skipSpace rest with
        | '\x7d' :: rest => return ([m], rest)
        | ',' :: rest =>
          let (ms, rest) ← membersFrom fuel depth (skipSpace rest)
          return (m :: ms, rest)
        | _ => none
      | _ => none
    | _ => none

end

/-- **The value that a text holds**, if it keeps the grammar, with the flaws in it. -/
def parseWithFlaws? (text : String) : Option Json :=
  let cs := skipSpace text.toList
  match value (2 * cs.length + 1) depthLimit cs with
  | some (v, rest) => if skipSpace rest = [] then some v else none
  | none => none

/-- **The value that a text holds**, if it is JSON without a flaw. -/
def parse? (text : String) : Option Json := (parseWithFlaws? text).filter intact

/-! ## Bytes -/

/-- What stands in a text for a byte of no character. Outside of strings and after a backslash its
first character is wrong, and its escapes are two halves of pairs that no neighbour completes. -/
def brokenByte : List Char := "\ufffd\\ud800\\ud800".toList

/-- The text of some bytes, for a reading with flaws. -/
def textOfBytes (bs : Bytes) : String :=
  String.ofList (bs.chars.flatMap fun c => c.elim brokenByte ([·]))

/-- **The value that some bytes hold**, if they keep the grammar, with the flaws in it. -/
def parseBytesWithFlaws? (bs : Bytes) : Option Json := parseWithFlaws? (textOfBytes bs)

@[simp]
theorem textOfBytes_ofString (s : String) : textOfBytes (.ofString s) = s := by
  rw [textOfBytes, Bytes.chars_ofString, List.flatMap_map]
  exact (congrArg String.ofList (List.flatMap_singleton' s.toList)).trans String.ofList_toList

end ExperimentQuery.Json
