import ExperimentQuery.Decimal.Binary

/-!
# Reading numbers

A number in text is an optional sign followed by digits with an optional point and an optional
exponent, at least one digit standing before or after the point. The words for infinity and for
no number are accepted in any case. The result is the nearest double.

* `Numeral`: the parts of a numeral as written;
* `spanDigits`: the run of digits at the front of a text;
* `numeral?`: a numeral without a sign that takes up the whole text;
* **`readBits?`**, `read?`: the double of a text, as its bits and as a value.
-/

namespace ExperimentQuery.Decimal

/-- The value of a run of digits. -/
def digitsValue (ds : List Char) : Nat :=
  ds.foldl (fun n c => 10 * n + (c.toNat - '0'.toNat)) 0

/-- The digits at the front of a text, and the rest. -/
def spanDigits (cs : List Char) : List Char × List Char := cs.span Char.isDigit

/-- A numeral's digits, and the power of ten of the last one. -/
structure Numeral where
  digits : Nat
  exponent : Int
  deriving Repr, DecidableEq

/-- The exponent at the end of a numeral: none, or a mark with a whole number. -/
def exponent? : List Char → Option Int
  | [] => some 0
  | mark :: rest =>
    if mark = 'e' ∨ mark = 'E' then
      let (negative, ds) := match rest with
        | '-' :: ds => (true, ds)
        | '+' :: ds => (false, ds)
        | ds => (false, ds)
      if ds ≠ [] ∧ ds.all Char.isDigit then
        some (if negative then -(digitsValue ds : Int) else digitsValue ds)
      else none
    else none

/-- A numeral without a sign that takes up the whole text. -/
def numeral? (cs : List Char) : Option Numeral :=
  let (whole, rest) := spanDigits cs
  let (fraction, rest) := match rest with
    | '.' :: rest => spanDigits rest
    | rest => ([], rest)
  if whole = [] ∧ fraction = [] then none
  else (exponent? rest).map fun e => ⟨digitsValue (whole ++ fraction), e - fraction.length⟩

/-- The bits of the values that are not finite, by their words in any case. -/
def namedBits? (word : List Char) : Option UInt64 :=
  let word := String.ofList (word.map Char.toLower)
  if word = "inf" ∨ word = "infinity" then some infinityBits
  else if word = "nan" then some nanBits
  else none

/-- A number without its sign. -/
def readUnsigned? (negative : Bool) (cs : List Char) : Option UInt64 :=
  match numeral? cs with
  | some n => some (decimalBits negative n.digits n.exponent)
  | none => (namedBits? cs).map (withSign negative)

/-- **The bits of the double that a text denotes**, if it is a number. The sign of a value that is
no number is kept. -/
def readBits? (text : String) : Option UInt64 :=
  match text.toList with
  | '-' :: cs => readUnsigned? true cs
  | '+' :: cs => readUnsigned? false cs
  | cs => readUnsigned? false cs

/-- The double that a text denotes, if it is a number. -/
def read? (text : String) : Option Float := (readBits? text).map Float.ofBits

end ExperimentQuery.Decimal
