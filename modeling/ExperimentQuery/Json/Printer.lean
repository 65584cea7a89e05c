import ExperimentQuery.Json.Basic
import ExperimentQuery.Decimal.Layout
import ExperimentQuery.Text.Basic

/-!
# JSON text

Two layouts: **compact**, with nothing between the tokens, and **pretty**, with two blanks for each
level.

* `Json.escape`, `Json.quote`: strings, only what must be escaped being escaped;
* `Json.compact`: a value on one line;
* `Json.pretty`: a value over several lines.
-/

namespace ExperimentQuery.Json

/-- A character of a string: quotes, backslashes and control characters are escaped. -/
def escapeChar (c : Char) : List Char :=
  if c = '"' then ['\\', '"']
  else if c = '\\' then ['\\', '\\']
  else if c = '\x08' then ['\\', 'b']
  else if c = '\x0c' then ['\\', 'f']
  else if c = '\n' then ['\\', 'n']
  else if c = '\r' then ['\\', 'r']
  else if c = '\t' then ['\\', 't']
  else if c.toNat < 0x20 then '\\' :: 'u' :: Text.hexDigits 4 c.toNat
  else [c]

/-- The characters of a string, escaped. -/
def escape (cs : List Char) : List Char := cs.flatMap escapeChar

/-- A string in quotes. -/
def quote (s : String) : List Char := '"' :: escape s.toList ++ ['"']

/-- A value without parts. -/
def scalar : Json → List Char
  | null => "null".toList
  | bool true => "true".toList
  | bool false => "false".toList
  | int n => (Decimal.intText n).toList
  | float x => if x.isFinite then (Decimal.document x).toList else "null".toList
  | str s => quote s
  | _ => []

mutual

/-- The characters of a value on one line. -/
def compactChars : Json → List Char
  | arr items => '[' :: compactItems items ++ [']']
  | obj members => '\x7b' :: compactMembers members ++ ['\x7d']
  | v => scalar v

/-- Items with commas between them. -/
def compactItems : List Json → List Char
  | [] => []
  | [v] => compactChars v
  | v :: vs => compactChars v ++ ',' :: compactItems vs

/-- Members with commas between them. -/
def compactMembers : List (String × Json) → List Char
  | [] => []
  | [(k, v)] => quote k ++ ':' :: compactChars v
  | (k, v) :: ms => quote k ++ ':' :: compactChars v ++ ',' :: compactMembers ms

end

/-- A value on one line. -/
def compact (v : Json) : String := String.ofList (compactChars v)

/-- A new line at a level. -/
def newLine (level : Nat) : List Char := '\n' :: List.replicate (2 * level) ' '

mutual

/-- The characters of a value over several lines, starting at a level. -/
def prettyChars (level : Nat) : Json → List Char
  | arr [] => ['[', ']']
  | arr items => '[' :: prettyItems (level + 1) items ++ newLine level ++ [']']
  | obj [] => ['\x7b', '\x7d']
  | obj members => '\x7b' :: prettyMembers (level + 1) members ++ newLine level ++ ['\x7d']
  | v => scalar v

/-- Items, each on a line of its own. -/
def prettyItems (level : Nat) : List Json → List Char
  | [] => []
  | [v] => newLine level ++ prettyChars level v
  | v :: vs => newLine level ++ prettyChars level v ++ ',' :: prettyItems level vs

/-- Members, each on a line of its own. -/
def prettyMembers (level : Nat) : List (String × Json) → List Char
  | [] => []
  | [(k, v)] => newLine level ++ quote k ++ ':' :: ' ' :: prettyChars level v
  | (k, v) :: ms =>
    newLine level ++ quote k ++ ':' :: ' ' :: prettyChars level v ++ ',' :: prettyMembers level ms

end

/-- A value over several lines. -/
def pretty (v : Json) : String := String.ofList (prettyChars 0 v)

end ExperimentQuery.Json
