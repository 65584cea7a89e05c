import ExperimentQuery.Unicode.Word
import ExperimentQuery.Text.Basic

/-!
# References to the environment

A setting may refer to environment variables, as `${NAME}` or `$NAME`. The name in braces goes up to
the closing brace, the other one as far as letters, digits and underscores go. A dollar sign that
neither follows is kept, and what a variable holds is not looked at again.

* `Reference`, `reference?`: the variable named at the front of a text;
* `referenceParts`: a text as characters and variables;
* **`expandEnv`**: the text with the variables in place of the references.
-/

namespace ExperimentQuery

/-- The values of environment variables. -/
abbrev Environment := String → Option String

/-- A reference: the name of the variable, and how many characters stand after the dollar sign. -/
structure Reference where
  name : List Char
  length : Nat
  deriving Repr, DecidableEq

/-- A character of a name that stands without braces. -/
def isNameChar (c : Char) : Bool := Unicode.isAlphanumeric c || c == '_'

/-- The reference that a dollar sign begins, for the text after it. -/
def reference? (cs : List Char) : Option Reference :=
  match cs with
  | '\x7b' :: inner =>
    let name := inner.takeWhile (· ≠ '\x7d')
    some ⟨name, 1 + min (name.length + 1) inner.length⟩
  | cs =>
    let name := cs.takeWhile isNameChar
    if name = [] then none else some ⟨name, name.length⟩

/-- A part of a text: a character that stands for itself, or a variable. -/
inductive ReferencePart where
  | char (c : Char)
  | reference (name : List Char)
  deriving Repr, DecidableEq

/-- The parts of a text from the left; the first `skip` characters belong to a reference already
taken. -/
def referenceParts : Nat → List Char → List ReferencePart
  | _, [] => []
  | skip + 1, _ :: cs => referenceParts skip cs
  | 0, c :: cs =>
    if c = '$' then
      match reference? cs with
      | some r => .reference r.name :: referenceParts r.length cs
      | none => .char c :: referenceParts 0 cs
    else .char c :: referenceParts 0 cs

/-- A variable that is not set. -/
structure MissingVariable where
  name : String
  deriving Repr, DecidableEq

/-- The characters that a part stands for. -/
def ReferencePart.expand (env : Environment) : ReferencePart → Except MissingVariable (List Char)
  | .char c => .ok [c]
  | .reference name =>
    match env (String.ofList name) with
    | some value => .ok value.toList
    | none => .error ⟨String.ofList name⟩

/-- The characters of a text with the variables in place of the references. -/
def expandChars (env : Environment) (cs : List Char) : Except MissingVariable (List Char) :=
  ((referenceParts 0 cs).mapM (ReferencePart.expand env)).map List.flatten

/-- **A text with the variables in place of the references**, or the first variable that is not
set. -/
def expandEnv (env : Environment) (text : String) : Except MissingVariable String :=
  (expandChars env text.toList).map String.ofList

end ExperimentQuery
