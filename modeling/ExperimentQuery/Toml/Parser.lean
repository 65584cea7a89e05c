import ExperimentQuery.Toml.Scalar
import ExperimentQuery.Toml.Table

/-!
# TOML documents

A document is a list of lines: headers, and keys with values. It is read into the same kind of
value as JSON text is.

* `keyPath`: a dotted key;
* `value`, `itemsFrom`, `inlineFrom`: values, arrays and inline tables;
* `documentFrom`: the lines of a document;
* **`parse?`**: the value of a document.
-/

namespace ExperimentQuery.Toml

/-! ## Keys -/

/-- A character of a key without quotes. -/
def isBareChar (c : Char) : Bool := c.isAlphanum || c == '-' || c == '_'

/-- One part of a key, and what follows. -/
def simpleKey (cs : List Char) : Option (String × List Char) :=
  match cs with
  | '"' :: rest => (quotedOnce? '"' rest).map fun (key, rest) => (String.ofList key, rest)
  | '\'' :: rest => (quotedOnce? '\'' rest).map fun (key, rest) => (String.ofList key, rest)
  | cs =>
    match cs.span isBareChar with
    | ([], _) => none
    | (key, rest) => some (String.ofList key, rest)

/-- The parts of a dotted key, and what follows it without the white space in front. -/
def keyPath : Nat → List Char → Option (List String × List Char)
  | 0, _ => none
  | fuel + 1, cs => do
    let (key, rest) ← simpleKey (skipWhite cs)
    match skipWhite rest with
    | '.' :: rest =>
      let (keys, rest) ← keyPath fuel rest
      return (key :: keys, rest)
    | rest => return ([key], rest)

/-- A dotted key, and what follows it. -/
def key? (cs : List Char) : Option (List String × List Char) := keyPath (cs.length + 1) cs

/-! ## Values -/

/-- The greatest number of arrays and inline tables within each other. -/
def depthLimit : Nat := 80

mutual

/-- The value at the front of a text; `depth` more levels may be opened. -/
def value : Nat → Nat → List Char → Option (Json × List Char)
  | 0, _, _ => none
  | fuel + 1, depth, cs =>
    match cs with
    | '"' :: rest => (quoted? '"' rest).map fun (text, rest) => (.str (String.ofList text), rest)
    | '\'' :: rest => (quoted? '\'' rest).map fun (text, rest) => (.str (String.ofList text), rest)
    | '[' :: rest =>
      match depth with
      | 0 => none
      | depth + 1 => (itemsFrom fuel depth rest).map fun (items, rest) => (.arr items, rest)
    | '\x7b' :: rest =>
      match depth with
      | 0 => none
      | depth + 1 => (inlineFrom fuel depth [] rest).map fun (t, rest) => (t.toJson, rest)
    | cs => scalar? cs

/-- Items up to the closing bracket; the last one may have a comma after it. -/
def itemsFrom : Nat → Nat → List Char → Option (List Json × List Char)
  | 0, _, _ => none
  | fuel + 1, depth, cs => do
    match skipGaps false cs with
    | ']' :: rest => return ([], rest)
    | cs =>
      let (v, rest) ← value fuel depth cs
      match skipGaps false rest with
      | ']' :: rest => return ([v], rest)
      | ',' :: rest =>
        let (vs, rest) ← itemsFrom fuel depth rest
        return (v :: vs, rest)
      | _ => none

/-- Members up to the closing brace, added to a table; the last one may have a comma after it. -/
def inlineFrom : Nat → Nat → Table → List Char → Option (Table × List Char)
  | 0, _, _, _ => none
  | fuel + 1, depth, t, cs => do
    match skipGaps false cs with
    | '\x7d' :: rest => return (t, rest)
    | cs =>
      match ← key? cs with
      | (path, '=' :: rest) =>
        let (v, rest) ← value fuel depth (skipWhite rest)
        let t ← t.put v path
        match skipGaps false rest with
        | '\x7d' :: rest => return (t, rest)
        | ',' :: rest => inlineFrom fuel depth t rest
        | _ => none
      | _ => none

end

/-! ## Documents -/

/-- The table of a document whose lines so far make up `t`, the last header being `path`. -/
def documentFrom : Nat → List String → Table → List Char → Option Table
  | 0, _, _, _ => none
  | fuel + 1, path, t, cs => do
    match skipGaps false cs with
    | [] => return t
    | '[' :: '[' :: rest =>
      match ← key? rest with
      | (path, ']' :: ']' :: rest) => documentFrom fuel path (← t.appendAt path) (← lineEnd? rest)
      | _ => none
    | '[' :: rest =>
      match ← key? rest with
      | (path, ']' :: rest) => documentFrom fuel path (← t.openAt path) (← lineEnd? rest)
      | _ => none
    | cs =>
      match ← key? cs with
      | (keys, '=' :: rest) =>
        let (v, rest) ← value (2 * rest.length + 1) depthLimit (skipWhite rest)
        documentFrom fuel path (← t.within (Table.put v keys) path) (← lineEnd? rest)
      | _ => none

/-- **The value of a document**, an object of its tables. -/
def parse? (text : String) : Option Json :=
  let cs := match text.toList with
    | '\ufeff' :: cs => cs
    | cs => cs
  (documentFrom (cs.length + 1) [] [] cs).map Table.toJson

end ExperimentQuery.Toml
