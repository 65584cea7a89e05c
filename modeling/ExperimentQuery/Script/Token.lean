import ExperimentQuery.Text.Basic
import ExperimentQuery.Decimal.Layout

/-!
# Script tokens

The atoms of a script's text.

* `Mark`, `Token`, `Token.text`: punctuation, names, literals and verbatim text;
* `escapeChar`, **`quoteString`**: string literals;
* `tokensText`: the text of a list of tokens.
-/

namespace ExperimentQuery.Script

/-! ## String literals -/

/-- A character of a string literal: quotes, backslashes, control characters and the two line
separators are escaped. -/
def escapeChar (c : Char) : List Char :=
  if c = '\\' then ['\\', '\\']
  else if c = '"' then ['\\', '"']
  else if c = '\n' then ['\\', 'n']
  else if c = '\r' then ['\\', 'r']
  else if c = '\t' then ['\\', 't']
  else if c = '\u2028' ∨ c = '\u2029' ∨ c.toNat < 0x20 then
    '\\' :: 'u' :: Text.hexDigits 4 c.toNat
  else [c]

/-- The content of a string literal. -/
def escapeChars (cs : List Char) : List Char := cs.flatMap escapeChar

@[simp]
theorem escapeChars_append (cs ds : List Char) :
    escapeChars (cs ++ ds) = escapeChars cs ++ escapeChars ds := List.flatMap_append

/-- The content of a string literal. -/
def escapeString (s : String) : String := String.ofList (escapeChars s.toList)

/-- A string literal. -/
def quoteChars (cs : List Char) : List Char := '"' :: escapeChars cs ++ ['"']

/-- **A string literal.** -/
def quoteString (s : String) : String := String.ofList (quoteChars s.toList)

/-! ## Tokens -/

/-- Punctuation. -/
inductive Mark where
  | comma
  | dot
  | lparen
  | rparen
  | lbracket
  | rbracket
  | strictEq
  | strictNe
  | looseEq
  | looseNe
  | lt
  | gt
  | le
  | ge
  | plus
  | minus
  | and
  | or
  | not
  | arrow
  | space
  deriving Repr, DecidableEq

/-- The text of a punctuation mark. -/
def Mark.text : Mark → String
  | comma => ","
  | dot => "."
  | lparen => "("
  | rparen => ")"
  | lbracket => "["
  | rbracket => "]"
  | strictEq => "==="
  | strictNe => "!=="
  | looseEq => "=="
  | looseNe => "!="
  | lt => "<"
  | gt => ">"
  | le => "<="
  | ge => ">="
  | plus => "+"
  | minus => "-"
  | and => "&&"
  | or => "||"
  | not => "!"
  | arrow => "=>"
  | space => " "

/-- Every punctuation mark. -/
def Mark.all : List Mark :=
  [comma, dot, lparen, rparen, lbracket, rbracket, strictEq, strictNe, looseEq, looseNe, lt, gt, le,
    ge, plus, minus, and, or, not, arrow, space]

/-- A token; `raw` is script text passed on as it is. -/
inductive Token where
  | mark (m : Mark)
  | ident (name : String)
  | number (value : Float)
  | str (content : String)
  | raw (text : String)
  deriving Repr

/-- The text of a token. -/
def Token.text : Token → String
  | mark m => m.text
  | ident name => name
  | number x => Decimal.scriptNumber x
  | str s => quoteString s
  | raw s => s

/-- The text of some tokens. -/
def tokensText (ts : List Token) : String := String.join (ts.map Token.text)

end ExperimentQuery.Script
