import ExperimentQuery.Json.Basic
import ExperimentQuery.Decimal.Reader

/-!
# Numerals of JSON text

A whole numeral that fits 64 bits stays whole. Every other numeral is read in floating arithmetic:
its digits make a whole number of 64 bits, those that no longer fit are left out, and the result
is scaled by one power of ten.

* `Significand`, `takeDigits`: the digits of a numeral that fit 64 bits;
* `scale`: a significand times a power of ten;
* **`numeral`**: the number at the front of a text.
-/

namespace ExperimentQuery.Json

open Decimal (spanDigits digitsValue)

/-- The digits read so far: their value, how many were left out for want of room, and how many of
those taken in stand after the point. -/
structure Significand where
  value : Nat
  full : Bool
  dropped : Nat
  places : Nat

/-- Take in a digit before the point. -/
def Significand.pushWhole (s : Significand) (c : Char) : Significand :=
  let next := 10 * s.value + digitsValue [c]
  if s.full ∨ next ≥ Nat.pow 2 64 then ⟨s.value, true, s.dropped + 1, s.places⟩
  else ⟨next, false, s.dropped, s.places⟩

/-- Take in a digit after the point. A digit that does not fit is left out together with those
after it. -/
def Significand.pushPlace (s : Significand) (c : Char) : Significand :=
  let next := 10 * s.value + digitsValue [c]
  if s.full ∨ next ≥ Nat.pow 2 64 then ⟨s.value, true, s.dropped, s.places⟩
  else ⟨next, false, s.dropped, s.places + 1⟩

/-- The significand of the digits before and after a point. -/
def significand (whole places : List Char) : Significand :=
  let s := whole.foldl Significand.pushWhole ⟨0, false, 0, 0⟩
  places.foldl Significand.pushPlace { s with full := false }

/-- The greatest power of ten that is a double. -/
def greatestPower : Nat := 308

/-- A power of ten. -/
def powerOfTen (n : Nat) : Float := Decimal.decimalFloat false 1 n

/-- A significand times a power of ten, the scaling being one multiplication or division unless the
power is out of reach; `none` when the result is too large. -/
def scaleBy : Nat → Float → Int → Option Float
  | 0, _, _ => some 0.0
  | fuel + 1, x, e =>
    if e.natAbs ≤ greatestPower then
      if e ≥ 0 then
        let y := x * powerOfTen e.toNat
        if y.isInf then none else some y
      else some (x / powerOfTen e.natAbs)
    else if x == 0.0 then some 0.0
    else if e ≥ 0 then none
    else scaleBy fuel (x / powerOfTen greatestPower) (e + greatestPower)

/-- A significand times a power of ten; dividing four times leaves nothing of 64 bits. -/
def scale (negative : Bool) (value : Nat) (e : Int) : Json :=
  match scaleBy 4 (UInt64.ofNat value).toFloat e with
  | some x => float (if negative then -x else x)
  | none => flaw

/-- A whole numeral: a value of 64 bits stays whole, and minus zero does not. -/
def wholeNumeral (negative : Bool) (value : Nat) : Json :=
  if !negative then int value
  else if 0 < value ∧ value ≤ Nat.pow 2 63 then int (-(value : Int))
  else float (-(UInt64.ofNat value).toFloat)

/-- The digits of an exponent after its mark, with its sign. -/
def exponentDigits : List Char → Bool × List Char × List Char
  | '-' :: cs => (true, spanDigits cs)
  | '+' :: cs => (false, spanDigits cs)
  | cs => (false, spanDigits cs)

/-- The number made of a sign, the digits before and after the point, and an exponent. -/
def floatNumeral (negative : Bool) (whole places : List Char) (exponent : Int) : Json :=
  let s := significand whole places
  if exponent.natAbs < Nat.pow 2 31 then scale negative s.value (s.dropped - s.places + exponent)
  else if s.value ≠ 0 ∧ 0 < exponent then flaw
  else scale negative 0 0

/-- **The number at the front of a text**, and the rest; one that is out of range is a flaw. -/
def numeral (cs : List Char) : Option (Json × List Char) := do
  let (negative, cs) := match cs with
    | '-' :: cs => (true, cs)
    | cs => (false, cs)
  let (whole, rest) := spanDigits cs
  if whole = [] ∨ (whole.head? = some '0' ∧ whole.length > 1) then none
  let (places, rest, pointed) ← match rest with
    | '.' :: rest =>
      let (places, rest) := spanDigits rest
      if places = [] then none else some (places, rest, true)
    | rest => some ([], rest, false)
  match rest with
  | mark :: after =>
    if mark = 'e' ∨ mark = 'E' then
      let (down, ds, rest) := exponentDigits after
      if ds = [] then none
      let e : Int := digitsValue ds
      return (floatNumeral negative whole places (if down then -e else e), rest)
    else return (plain negative whole places pointed, rest)
  | [] => return (plain negative whole places pointed, [])
where
  /-- A numeral without an exponent. -/
  plain (negative : Bool) (whole places : List Char) (pointed : Bool) : Json :=
    if !pointed && digitsValue whole < Nat.pow 2 64 then wholeNumeral negative (digitsValue whole)
    else floatNumeral negative whole places 0

end ExperimentQuery.Json
