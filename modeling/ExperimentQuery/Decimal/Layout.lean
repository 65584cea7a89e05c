import ExperimentQuery.Decimal.Shortest

/-!
# Written numbers

Two layouts of the shortest decimal are in use. A **plain** number is always positional and has no
fraction when it is whole. A **document** number, as JSON text holds it, keeps one decimal and
turns to an exponent outside of the orders -5 to 15.

* `positional`: digits around a point;
* `plain`: the layout of messages, scripts and reports;
* `document`: the layout of JSON documents;
* `scriptNumber`: a number literal of a script.
-/

namespace ExperimentQuery.Decimal

/-- The decimal digits of a number. -/
def digitText (n : Nat) : String := String.ofList (Nat.toDigits 10 n)

/-- The text of a whole number. -/
def intText (n : Int) : String := if n < 0 then "-" ++ digitText n.natAbs else digitText n.natAbs

/-- `count` zeros. -/
def zeros (count : Nat) : List Char := List.replicate count '0'

/-- Digits without an exponent; `whole` follows a decimal that has no fraction. -/
def positional (whole : String) (d : Scientific) : String :=
  let ds := Nat.toDigits 10 d.digits
  if d.exponent ≥ 0 then String.ofList (ds ++ zeros d.exponent.toNat) ++ whole
  else
    let places := (-d.exponent).toNat
    if ds.length > places then
      String.ofList (ds.take (ds.length - places) ++ '.' :: ds.drop (ds.length - places))
    else String.ofList ('0' :: '.' :: zeros (places - ds.length) ++ ds)

/-- The order of magnitude: the exponent of the first digit. -/
def Scientific.order (d : Scientific) : Int :=
  d.exponent + (Nat.toDigits 10 d.digits).length - 1

/-- One digit, the others after a point, and the order with its sign. -/
def exponential (d : Scientific) : String :=
  let order := d.order
  let mantissa := positional "" ⟨d.digits, 1 - (Nat.toDigits 10 d.digits).length⟩
  mantissa ++ "e" ++ (if order < 0 then "-" else "+") ++ digitText order.natAbs

/-- A minus sign for a negative bit pattern. -/
def signed (bits : UInt64) (text : String) : String :=
  if isNegative bits then "-" ++ text else text

/-- A finite number as messages and scripts show it: positional, with no point when it is whole. -/
def plain (x : Float) : String :=
  signed x.toBits (positional "" (shortest .up x.toBits))

/-- A finite number as JSON documents hold it. -/
def document (x : Float) : String :=
  let d := shortest .even x.toBits
  signed x.toBits
    (if d.digits = 0 ∨ (-5 ≤ d.order ∧ d.order ≤ 15) then positional ".0" d else exponential d)

/-- Any number as reports show it; the values that are not finite go by their names. -/
def report (x : Float) : String :=
  if x.isNaN then "NaN"
  else if x.isInf then (if x > 0 then "Infinity" else "-Infinity")
  else plain x

/-- Whether a number is whole and small enough to be shown as an integer. -/
def isShortInteger (x : Float) : Bool :=
  x.isFinite && (Magnitude.ofBits x.toBits).isWholeBelow (Nat.pow 10 15)

/-- A number literal of a script: zero has no sign, and the values that are not finite go by the
names of the globals that hold them. -/
def scriptNumber (x : Float) : String :=
  if x == 0 then "0" else report x

end ExperimentQuery.Decimal
