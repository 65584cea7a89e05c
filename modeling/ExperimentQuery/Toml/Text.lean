import ExperimentQuery.Unicode.CodePoint
import ExperimentQuery.Text.Basic

/-!
# Tokens of TOML

White space, comments, line ends and strings. Strings stand between double quotes, with escapes, or
between single quotes, without any; three quotes at each end make one that may run over lines.

* `skipGaps`: what may stand between the parts of a value and between lines;
* `lineEnd?`: the end of a line;
* `bare`, `Quoting.body`, `quoted?`: words without quotes, and strings.
-/

namespace ExperimentQuery.Toml

/-- A blank or a tab. -/
def isWhite (c : Char) : Bool := c == ' ' || c == '\t'

/-- A text without the blanks and tabs before it. -/
def skipWhite (cs : List Char) : List Char := cs.dropWhile isWhite

/-- A character that may stand in comments and strings: no control character but a tab. -/
def isPlain (c : Char) : Bool := c == '\t' || (0x20 ≤ c.toNat && c.toNat ≠ 0x7f)

/-- What follows a line break at the front of a text. -/
def newline? : List Char → Option (List Char)
  | '\n' :: rest => some rest
  | '\x0d' :: '\n' :: rest => some rest
  | _ => none

/-- A text without the blanks, line breaks and comments before it; the text may start within a
comment. -/
def skipGaps : Bool → List Char → List Char
  | _, [] => []
  | _, '\n' :: cs => skipGaps false cs
  | _, '\x0d' :: '\n' :: cs => skipGaps false cs
  | false, c :: cs =>
    if c = '#' then skipGaps true cs else if isWhite c then skipGaps false cs else c :: cs
  | true, c :: cs => if isPlain c then skipGaps true cs else c :: cs

/-- What follows the end of a line, before which a comment may stand. -/
def lineEnd? (cs : List Char) : Option (List Char) :=
  let cs := skipWhite cs
  let cs := match cs with
    | '#' :: comment => comment.dropWhile isPlain
    | cs => cs
  if cs = [] then some [] else newline? cs

/-! ## Strings -/

/-- How a string is quoted. -/
structure Quoting where
  quote : Char
  /-- Whether the string may run over lines. -/
  multi : Bool

/-- Whether a backslash begins an escape. -/
def Quoting.escapes (q : Quoting) : Bool := q.quote == '"'

/-- The character of hexadecimal digits, and what follows. -/
def codePoint? (digits rest : List Char) : Option (List Char × List Char) := do
  return ([← Unicode.char? (← Unicode.hex? digits)], rest)

/-- A text without the blanks and line breaks before it. -/
def skipMargin : List Char → List Char
  | '\x0d' :: '\n' :: cs => skipMargin cs
  | c :: cs => if isWhite c || c == '\n' then skipMargin cs else c :: cs
  | [] => []

/-- What the characters after a backslash stand for, and what follows. A line break stands for
nothing, together with the margin of the line after it. -/
def Quoting.escape? (q : Quoting) (cs : List Char) : Option (List Char × List Char) :=
  match cs with
  | 'b' :: rest => some (['\x08'], rest)
  | 't' :: rest => some (['\t'], rest)
  | 'n' :: rest => some (['\n'], rest)
  | 'e' :: rest => some (['\x1b'], rest)
  | 'f' :: rest => some (['\x0c'], rest)
  | 'r' :: rest => some (['\x0d'], rest)
  | '"' :: rest => some (['"'], rest)
  | '\\' :: rest => some (['\\'], rest)
  | 'x' :: a :: b :: rest => codePoint? [a, b] rest
  | 'u' :: a :: b :: c :: d :: rest => codePoint? [a, b, c, d] rest
  | 'U' :: a :: b :: c :: d :: e :: f :: g :: h :: rest => codePoint? [a, b, c, d, e, f, g, h] rest
  | cs =>
    if q.multi then (newline? (skipWhite cs)).map fun rest => ([], skipMargin rest) else none

/-- The quotes that end a string, and what follows. In front of the last three, a string over
lines may have two quotes of its own. -/
def Quoting.closing? (q : Quoting) (cs : List Char) : Option (List Char × List Char) :=
  let run := min 5 (cs.takeWhile (· == q.quote)).length
  if q.multi then
    if 3 ≤ run then some (List.replicate (run - 3) q.quote, cs.drop run) else none
  else if 1 ≤ run then some ([], cs.drop 1)
  else none

/-- The content of a string, and what follows its closing quotes; the fuel is the length of the
text. -/
def Quoting.body (q : Quoting) : Nat → List Char → Option (List Char × List Char)
  | 0, _ => none
  | fuel + 1, cs =>
    match q.closing? cs with
    | some ended => some ended
    | none =>
      match cs with
      | [] => none
      | c :: rest =>
        if q.escapes && c == '\\' then do
          let (char, rest) ← q.escape? rest
          let (text, rest) ← q.body fuel rest
          return (char ++ text, rest)
        else if isPlain c || (q.multi && (newline? (c :: rest)).isSome) then
          (q.body fuel rest).map fun (text, rest) => (c :: text, rest)
        else none

/-- The content of the string after an opening quote, if it is one on one line. -/
def quotedOnce? (quote : Char) (cs : List Char) : Option (List Char × List Char) :=
  Quoting.body ⟨quote, false⟩ (cs.length + 1) cs

/-- The content of the string after an opening quote; a line break right after three quotes does not
count. -/
def quoted? (quote : Char) (cs : List Char) : Option (List Char × List Char) :=
  match Text.stripWord? [quote, quote] cs with
  | some rest =>
    let rest := (newline? rest).getD rest
    Quoting.body ⟨quote, true⟩ (rest.length + 1) rest
  | none => quotedOnce? quote cs

end ExperimentQuery.Toml
