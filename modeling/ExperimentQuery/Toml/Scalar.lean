import ExperimentQuery.Decimal.Reader
import ExperimentQuery.Json.Basic
import ExperimentQuery.Time.Reader
import ExperimentQuery.Toml.Text

/-!
# Scalars of TOML

Numbers, booleans and dates are words without blanks, but for the one that may stand between a date
and a time.

* `digits?`: digits with single underscores between them;
* `integer?`, `float?`: numbers;
* `isDateTime`: a date, a time, or both with an offset or without;
* **`scalar?`**: the value at the front of a text that is no string and has no parts.
-/

namespace ExperimentQuery.Toml

/-! ## Numbers -/

/-- The digits of a number without the single underscores that may stand between two of them. -/
def digits? (isDigit : Char → Bool) : List Char → Option (List Char)
  | [] => none
  | [c] => if isDigit c then some [c] else none
  | c :: '_' :: cs => if isDigit c then (digits? isDigit cs).map (c :: ·) else none
  | c :: cs => if isDigit c then (digits? isDigit cs).map (c :: ·) else none

/-- A sign and what follows; none is as good as a plus. -/
def sign : List Char → Bool × List Char
  | '-' :: cs => (true, cs)
  | '+' :: cs => (false, cs)
  | cs => (false, cs)

/-- Decimal digits that begin with zero only when it is the only one. -/
def wholeDigits? (cs : List Char) : Option (List Char) :=
  (digits? Char.isDigit cs).filter fun ds => ds.head? ≠ some '0' || ds.length == 1

/-- The value of digits in a base. -/
def inBase? (base : Nat) (cs : List Char) : Option Nat := do
  let isDigit := fun c => (Unicode.hexDigit? c).any (· < base)
  (← digits? isDigit cs).foldlM (fun n c => (Unicode.hexDigit? c).map (base * n + ·)) 0

/-- A whole number of 128 bits with a sign or without. -/
def integer? (cs : List Char) : Option Int := do
  let n ← match cs with
    | '0' :: 'x' :: cs => (inBase? 16 cs).map Int.ofNat
    | '0' :: 'o' :: cs => (inBase? 8 cs).map Int.ofNat
    | '0' :: 'b' :: cs => (inBase? 2 cs).map Int.ofNat
    | cs =>
      let (negative, cs) := sign cs
      (wholeDigits? cs).map fun ds =>
        let n : Int := Decimal.digitsValue ds
        if negative then -n else n
  if -(Nat.pow 2 127 : Int) ≤ n ∧ n < (Nat.pow 2 128 : Int) then some n else none

/-- The exponent of a float, zero when there is none. -/
def exponent? : List Char → Option Int
  | [] => some 0
  | e :: cs =>
    if e = 'e' ∨ e = 'E' then
      let (negative, cs) := sign cs
      (digits? Char.isDigit cs).map fun ds =>
        let n : Int := Decimal.digitsValue ds
        if negative then -n else n
    else none

/-- A float: a whole number with decimals, with an exponent, or with both. -/
def float? (cs : List Char) : Option Float := do
  let (negative, cs) := sign cs
  if cs = "inf".toList then some (if negative then -Decimal.infinity else Decimal.infinity)
  else if cs = "nan".toList then some Decimal.nan
  else
    let isMark := fun c => c == '.' || c == 'e' || c == 'E'
    let whole ← wholeDigits? (cs.takeWhile (!isMark ·))
    let rest := cs.dropWhile (!isMark ·)
    let (places, rest) ← match rest with
      | '.' :: rest =>
        let isExponent := fun c => c == 'e' || c == 'E'
        (digits? Char.isDigit (rest.takeWhile (!isExponent ·))).map fun ds =>
          (ds, rest.dropWhile (!isExponent ·))
      | [] => none
      | rest => some ([], rest)
    let exponent ← exponent? rest
    let x := Decimal.decimalFloat negative (Decimal.digitsValue (whole ++ places))
      (exponent - places.length)
    if x.isFinite then some x else none

/-! ## Dates -/

/-- A date, and what follows. -/
def date? (cs : List Char) : Option (List Char) := do
  let (century, cs) ← Time.twoDigits? cs
  let (year, cs) ← Time.twoDigits? cs
  let cs ← Text.stripWord? ['-'] cs
  let (month, cs) ← Time.twoDigits? cs
  let cs ← Text.stripWord? ['-'] cs
  let (day, cs) ← Time.twoDigits? cs
  if (⟨(century * 100 + year : Nat), month, day⟩ : Time.Date).valid then some cs else none

/-- A second with its decimals, and what follows. -/
def second? (cs : List Char) : Option (List Char) := do
  let (second, cs) ← Time.twoDigits? cs
  if second > 60 then none
  else
    match cs with
    | '.' :: rest =>
      let (ds, rest) := Decimal.spanDigits rest
      if ds = [] then none else some rest
    | cs => some cs

/-- A time of day, to the minute or to the second, and what follows. -/
def time? (cs : List Char) : Option (List Char) := do
  let (hour, cs) ← Time.twoDigits? cs
  let cs ← Text.stripWord? [':'] cs
  let (minute, cs) ← Time.twoDigits? cs
  if hour > 23 ∨ minute > 59 then none
  else
    match cs with
    | ':' :: rest => second? rest
    | cs => some cs

/-- The end of a time: an offset, or nothing. -/
def isOffset (cs : List Char) : Bool :=
  match cs with
  | [] => true
  | [c] => c == 'Z' || c == 'z'
  | [s, a, b, ':', c, d] =>
    (s == '+' || s == '-') && [a, b, c, d].all Char.isDigit &&
      Decimal.digitsValue [a, b] ≤ 23 && Decimal.digitsValue [c, d] ≤ 59
  | _ => false

/-- Whether a word is a date, a time, or both. -/
def isDateTime (cs : List Char) : Bool :=
  match date? cs with
  | some [] => true
  | some (c :: rest) => (c == 'T' || c == 't' || c == ' ') && (time? rest).any isOffset
  | none => time? cs == some []

/-- A date is a record of its text. -/
def dateRecord (cs : List Char) : Json := .obj [("date", .str (String.ofList cs))]

/-! ## Words -/

/-- A character of a number, a boolean or a date. -/
def isWordChar (c : Char) : Bool := c.isAlphanum || "+-_.:".toList.contains c

/-- The word at the front of a text. A date takes the time with it that follows after a blank. -/
def scalarWord (cs : List Char) : List Char :=
  let word := cs.takeWhile isWordChar
  match cs.drop word.length with
  | ' ' :: c :: rest =>
    if date? word = some [] && c.isDigit then word ++ ' ' :: (c :: rest).takeWhile isWordChar
    else word
  | _ => word

/-- **The number, boolean or date at the front of a text**, and what follows. -/
def scalar? (cs : List Char) : Option (Json × List Char) := do
  let word := scalarWord cs
  let v ←
    if word = "true".toList then some (Json.bool true)
    else if word = "false".toList then some (Json.bool false)
    else ((integer? word).map Json.int) <|> ((float? word).map Json.float) <|>
      (if isDateTime word then some (dateRecord word) else none)
  return (v, cs.drop word.length)

end ExperimentQuery.Toml
