/-!
# Binary magnitudes

A finite double is a sign and a magnitude `m · 2^q` with whole `m` and `q`. The mantissa has at
most 53 bits, and exactly 53 unless `q` is the least exponent, `-1074`.

* `Magnitude`, `Magnitude.ofBits`: the magnitude of a bit pattern;
* `Magnitude.isWholeBelow`: whether it is a whole number below a bound;
* `roundDiv`: a quotient of naturals rounded to the nearest whole, a half going to the even one;
* `Magnitude.nearest`: the magnitude nearest to a positive fraction;
* `nearestBits`: the double nearest to a fraction with a sign, infinite when none is that large;
* `decimalBits`, `decimalFloat`: the double nearest to a decimal;
* `wholeFloat`: the double nearest to a whole number.
-/

namespace ExperimentQuery.Decimal

/-- The magnitude `mantissa · 2^exponent`. -/
structure Magnitude where
  mantissa : Nat
  exponent : Int
  deriving Repr, DecidableEq

/-- The exponent of the least positive double, which is also the least spacing. -/
def leastExponent : Int := -1074

/-- The exponent field of a bit pattern. -/
def exponentField (bits : UInt64) : Nat := (bits >>> 52).toNat % 2048

/-- The fraction field of a bit pattern. -/
def fractionField (bits : UInt64) : Nat := bits.toNat % Nat.pow 2 52

/-- The sign of a bit pattern. -/
def isNegative (bits : UInt64) : Bool := Nat.pow 2 63 ≤ bits.toNat

/-- The magnitude of a finite double's bit pattern. -/
def Magnitude.ofBits (bits : UInt64) : Magnitude :=
  if exponentField bits = 0 then ⟨fractionField bits, leastExponent⟩
  else ⟨Nat.pow 2 52 + fractionField bits, (exponentField bits : Int) - 1075⟩

/-- Whether a magnitude is a whole number below a bound. -/
def Magnitude.isWholeBelow (bound : Nat) (x : Magnitude) : Bool :=
  let unit := Nat.pow 2 (-x.exponent).toNat
  x.mantissa % unit = 0 && x.mantissa * Nat.pow 2 x.exponent.toNat < bound * unit

/-- The bit pattern of a magnitude with a sign, infinite when its exponent is too large. -/
def Magnitude.toBits (negative : Bool) (x : Magnitude) : UInt64 :=
  let body : Nat :=
    if x.mantissa < Nat.pow 2 52 then x.mantissa
    else if x.exponent > 971 then 2047 * Nat.pow 2 52
    else (x.exponent + 1075).toNat * Nat.pow 2 52 + (x.mantissa - Nat.pow 2 52)
  UInt64.ofNat (if negative then Nat.pow 2 63 + body else body)

/-- The quotient rounded to the nearest whole number; a half goes to the even neighbour. -/
def roundDiv (num den : Nat) : Nat :=
  let q := num / den
  let r := num % den
  if 2 * r < den then q
  else if 2 * r = den then (if q % 2 = 0 then q else q + 1)
  else q + 1

/-- `num / den / 2^e`, rounded. -/
def roundScaled (num den : Nat) (e : Int) : Nat :=
  if e ≥ 0 then roundDiv num (den * Nat.pow 2 e.toNat)
  else roundDiv (num * Nat.pow 2 (-e).toNat) den

/-- The exponent at which the fraction `num / den` has a mantissa of 53 bits. -/
def fittingExponent (num den : Nat) : Int :=
  let guess : Int := (num.log2 : Int) - den.log2 - 52
  let fits : Bool :=
    if guess ≥ 0 then den * Nat.pow 2 guess.toNat * Nat.pow 2 52 ≤ num
    else den * Nat.pow 2 52 ≤ num * Nat.pow 2 (-guess).toNat
  max leastExponent (if fits then guess else guess - 1)

/-- The magnitude nearest to the positive fraction `num / den`, ties to even. -/
def Magnitude.nearest (num den : Nat) : Magnitude :=
  let e := fittingExponent num den
  let m := roundScaled num den e
  if m = Nat.pow 2 53 then ⟨Nat.pow 2 52, e + 1⟩ else ⟨m, e⟩

/-- The bits of a sign and of a magnitude's bits. -/
def withSign (negative : Bool) (bits : UInt64) : UInt64 :=
  if negative then 0x8000000000000000 ||| bits else bits

/-- The bits of the value that is no number. -/
def nanBits : UInt64 := 0x7FF8000000000000

/-- The bits of infinity. -/
def infinityBits : UInt64 := 0x7FF0000000000000

/-- The value that is no number. -/
def nan : Float := Float.ofBits nanBits

/-- Infinity. -/
def infinity : Float := Float.ofBits infinityBits

/-- The bits of the double nearest to `± num / den`. -/
def nearestBits (negative : Bool) (num den : Nat) : UInt64 :=
  if num = 0 then withSign negative 0 else (Magnitude.nearest num den).toBits negative

/-- The bits of the double nearest to `± digits · 10^exponent`.

A value beyond the reach of every double is decided from its order of magnitude alone, so that no
power of ten is computed for it. -/
def decimalBits (negative : Bool) (digits : Nat) (exponent : Int) : UInt64 :=
  if digits = 0 then nearestBits negative 0 1
  else
    let order : Int := exponent + (Nat.toDigits 10 digits).length
    if order > 310 then nearestBits negative (Nat.pow 2 1025) 1
    else if order < -330 then nearestBits negative 0 1
    else if exponent ≥ 0 then nearestBits negative (digits * Nat.pow 10 exponent.toNat) 1
    else nearestBits negative digits (Nat.pow 10 (-exponent).toNat)

/-- The double nearest to `± digits · 10^exponent`. -/
def decimalFloat (negative : Bool) (digits : Nat) (exponent : Int) : Float :=
  Float.ofBits (decimalBits negative digits exponent)

/-- A whole number of 64 bits as the nearest double. -/
def wholeFloat (n : Int) : Float :=
  if n < 0 then -(UInt64.ofNat n.natAbs).toFloat else (UInt64.ofNat n.natAbs).toFloat

end ExperimentQuery.Decimal
