import ExperimentQuery.Script.Token

/-!
# Script lines

A script is a list of lines. A line is blank, a comment, or code, at some depth of indentation.

* `Line`, `Line.text`: lines and their text;
* `code`, `comment`, `blank`, `block`: building lines;
* **`render`**: the text of a script;
* `Writer`: lines written one after the other at a current depth.
-/

namespace ExperimentQuery.Script

/-- What a line holds. -/
inductive Content where
  | blank
  | comment (text : String)
  | code (tokens : List Token)
  deriving Repr

/-- A line at a depth of indentation. -/
structure Line where
  depth : Nat
  content : Content
  deriving Repr

/-- A text on one line: each line break becomes a blank. -/
def flatten (s : String) : String := s.map fun c => if c = '\n' ∨ c = '\r' then ' ' else c

/-- The indentation of a depth. -/
def indentation (unit : String) (depth : Nat) : String := String.join (List.replicate depth unit)

/-- The text of a line, indented by `unit` for each level; a blank line is not indented. -/
def Line.text (unit : String) (l : Line) : String :=
  match l.content with
  | .blank => ""
  | .comment s => indentation unit l.depth ++ "// " ++ flatten s
  | .code ts => indentation unit l.depth ++ tokensText ts

/-- The text of some lines. -/
def renderWith (unit : String) (ls : List Line) : String :=
  String.join (ls.map fun l => l.text unit ++ "\n")

/-- **The text of a script**, indented by two blanks for each level. -/
def render (ls : List Line) : String := renderWith "  " ls

/-! ## Building -/

/-- A line of code. -/
def code (ts : List Token) : Line := ⟨0, .code ts⟩

/-- A line of fixed code. -/
def codeText (s : String) : Line := code [.raw s]

/-- A comment. -/
def comment (s : String) : Line := ⟨0, .comment s⟩

/-- A blank line. -/
def blank : Line := ⟨0, .blank⟩

/-- Lines one level deeper. -/
def nest (ls : List Line) : List Line := ls.map fun l => { l with depth := l.depth + 1 }

/-- Lines one level deeper between an opening and a closing line. -/
def block (opening : List Token) (body : List Line) (closing : String) : List Line :=
  code opening :: nest body ++ [codeText closing]

/-- A block of fixed code; the opening line ends with a brace. -/
def braceBlock (opening : List Token) (body : List Line) (after : String) : List Line :=
  block (opening ++ [.raw "\x7b"]) body ("\x7d" ++ after)

/-! ## Writing line by line -/

/-- The lines of a text as lines of code, the empty ones being blank lines. -/
def textLines (s : String) : List Line :=
  (Text.lines s).map fun l => if l = "" then blank else codeText l

/-- Lines written so far, and the depth of the next one. -/
structure Writer where
  depth : Nat := 0
  lines : List Line := []

namespace Writer

/-- Indent the next lines by one level more. -/
def indent (w : Writer) : Writer := { w with depth := w.depth + 1 }

/-- Indent the next lines by one level less, if there is one. -/
def dedent (w : Writer) : Writer := { w with depth := w.depth - 1 }

/-- Write lines at the current depth. -/
def write (w : Writer) (ls : List Line) : Writer :=
  { w with lines := w.lines ++ ls.map fun l => { l with depth := l.depth + w.depth } }

/-- The text written so far. -/
def text (unit : String) (w : Writer) : String := renderWith unit w.lines

end Writer

end ExperimentQuery.Script
