import ExperimentQuery.Script.Token

/-!
# Script expressions

Expressions are trees; they are written without parentheses of their own, so that a tree that
needs them says so with `Expr.paren`.

* `BinaryOp`, `Expr`: the trees;
* **`Expr.tokens`**, `Expr.text`: how a tree is written;
* `Expr.property`, `Expr.conj`: properties of the event, and conjunctions.
-/

namespace ExperimentQuery.Script

/-- A binary operator. -/
inductive BinaryOp where
  | strictEq
  | strictNe
  | looseEq
  | looseNe
  | lt
  | le
  | gt
  | ge
  | add
  | sub
  | and
  | or
  deriving Repr, DecidableEq

/-- The mark of a binary operator. -/
def BinaryOp.mark : BinaryOp → Mark
  | strictEq => .strictEq
  | strictNe => .strictNe
  | looseEq => .looseEq
  | looseNe => .looseNe
  | lt => .lt
  | le => .le
  | gt => .gt
  | ge => .ge
  | add => .plus
  | sub => .minus
  | and => .and
  | or => .or

/-- Every binary operator. -/
def BinaryOp.all : List BinaryOp :=
  [strictEq, strictNe, looseEq, looseNe, lt, le, gt, ge, add, sub, and, or]

/-- An expression; `raw` is script text taken as it is. -/
inductive Expr where
  | ident (name : String)
  | number (value : Float)
  | str (content : String)
  | member (object : Expr) (name : String)
  | index (object key : Expr)
  | binary (op : BinaryOp) (left right : Expr)
  | not (e : Expr)
  | call (callee : Expr) (args : List Expr)
  | array (items : List Expr)
  | paren (e : Expr)
  | raw (text : String)
  deriving Repr

namespace Expr

mutual

/-- The tokens of an expression. -/
def tokens : Expr → List Token
  | ident name => [.ident name]
  | number x => [.number x]
  | str s => [.str s]
  | member e name => e.tokens ++ [.mark .dot, .ident name]
  | index e key => e.tokens ++ .mark .lbracket :: key.tokens ++ [.mark .rbracket]
  | binary op l r => l.tokens ++ .mark .space :: .mark op.mark :: .mark .space :: r.tokens
  | not e => .mark .not :: e.tokens
  | call e args => e.tokens ++ .mark .lparen :: listTokens args ++ [.mark .rparen]
  | array items => .mark .lbracket :: listTokens items ++ [.mark .rbracket]
  | paren e => .mark .lparen :: e.tokens ++ [.mark .rparen]
  | raw s => [.raw s]

/-- The tokens of some expressions with commas between them. -/
def listTokens : List Expr → List Token
  | [] => []
  | [e] => e.tokens
  | e :: es => e.tokens ++ .mark .comma :: .mark .space :: listTokens es

end

/-- The text of an expression. -/
def text (e : Expr) : String := tokensText e.tokens

/-- The property of the event at a path. -/
def property (path : List String) : Expr :=
  path.foldl (fun e name => index e (str name)) (member (ident "event") "properties")

/-- The conjunction of some expressions from the left; `true` for none. -/
def conj : List Expr → Expr
  | [] => raw "true"
  | e :: es => es.foldl (binary .and) e

/-- The name of the event. -/
def eventName : Expr := member (ident "event") "name"

/-- The time of the event. -/
def eventTime : Expr := member (ident "event") "time"

/-- A whole number. -/
def int (n : Int) : Expr := number (Decimal.wholeFloat n)

end Expr

end ExperimentQuery.Script
