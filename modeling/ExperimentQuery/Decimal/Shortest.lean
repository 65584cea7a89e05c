import ExperimentQuery.Decimal.Binary

/-!
# Shortest decimals

The decimal written for a double is the one with the fewest digits among those that read back to
the same double, and the nearest of these to the exact value. The reals that read back to
`m · 2^q` form an interval; for each count of digits only the two neighbours of the exact value on
that decimal grid can lie in it, so seventeen tests in whole numbers decide.

* `Scientific`: `digits · 10^exponent`;
* `Interval`: the reals that round to one double, scaled to whole numbers;
* `Tie`: which neighbour is taken when both are equally near;
* **`shortest`**: the decimal of a bit pattern.
-/

namespace ExperimentQuery.Decimal

/-- The decimal `digits · 10^exponent`. -/
structure Scientific where
  digits : Nat
  exponent : Int
  deriving Repr, DecidableEq

/-- Which of two equally near decimals is taken. -/
inductive Tie where
  | up
  | even
  deriving Repr, DecidableEq

/-- The reals that round to one double, as multiples of `1 / scale`. -/
structure Interval where
  scale : Nat
  low : Nat
  value : Nat
  high : Nat
  closed : Bool
  deriving Repr, DecidableEq

/-- The rounding interval of a positive magnitude: half a spacing on either side, a quarter below
a power of two, with its ends when the mantissa is even. -/
def Interval.ofMagnitude (x : Magnitude) : Interval :=
  let below := if x.mantissa = Nat.pow 2 52 ∧ x.exponent > leastExponent then 1 else 2
  let q := x.exponent - 2
  let up := Nat.pow 2 q.toNat
  { scale := Nat.pow 2 (-q).toNat
    low := (4 * x.mantissa - below) * up
    value := 4 * x.mantissa * up
    high := (4 * x.mantissa + 2) * up
    closed := x.mantissa % 2 = 0 }

/-- Whether `digits · 10^exponent` lies in the interval. -/
def Interval.contains (i : Interval) (d : Scientific) : Bool :=
  let point := d.digits * Nat.pow 10 d.exponent.toNat * i.scale
  let unit := Nat.pow 10 (-d.exponent).toNat
  if i.closed then i.low * unit ≤ point && point ≤ i.high * unit
  else i.low * unit < point && point < i.high * unit

/-- The largest multiple of `10^e` that is not above the value, as a count of `10^e`. -/
def Interval.floor (i : Interval) (e : Int) : Nat :=
  i.value * Nat.pow 10 (-e).toNat / (i.scale * Nat.pow 10 e.toNat)

/-- Whether the value is nearer to the upper of the grid points `d` and `d + 1`, a tie going as
`tie` says. -/
def Interval.prefersUpper (i : Interval) (tie : Tie) (d : Nat) (e : Int) : Bool :=
  let value := 2 * i.value * Nat.pow 10 (-e).toNat
  let middle := (2 * d + 1) * Nat.pow 10 e.toNat * i.scale
  if value = middle then (match tie with | .up => true | .even => d % 2 = 1) else middle < value

/-- The grid point of spacing `10^e` taken for the value, if one reads back. -/
def Interval.onGrid (i : Interval) (tie : Tie) (e : Int) : Option Nat :=
  let d := i.floor e
  match i.contains ⟨d, e⟩, i.contains ⟨d + 1, e⟩ with
  | true, true => some (if i.prefersUpper tie d e then d + 1 else d)
  | true, false => some d
  | false, true => some (d + 1)
  | false, false => none

/-- An exponent `p` with `10^p ≤ value`, at most one short of the greatest. -/
def Interval.order (i : Interval) : Int :=
  let bits : Int := (i.value.log2 : Int) - i.scale.log2 - 1
  (bits * 30103).fdiv 100000 - 1

/-- The decimal without the zeros at its end. -/
def Scientific.strip : Nat → Scientific → Scientific
  | 0, d => d
  | n + 1, d =>
    if d.digits ≠ 0 ∧ d.digits % 10 = 0 then strip n ⟨d.digits / 10, d.exponent + 1⟩ else d

/-- The first grid, from spacing `10^e` down, with a point that reads back. -/
def Interval.search (i : Interval) (tie : Tie) : Nat → Int → Scientific
  | 0, e => ⟨i.floor e, e⟩
  | n + 1, e =>
    match i.onGrid tie e with
    | some d => if d = 0 then i.search tie n (e - 1) else ⟨d, e⟩
    | none => i.search tie n (e - 1)

/-- **The shortest decimal that reads back to a finite double**, without its sign. -/
def shortest (tie : Tie) (bits : UInt64) : Scientific :=
  let x := Magnitude.ofBits bits
  if x.mantissa = 0 then ⟨0, 0⟩
  else
    let i := Interval.ofMagnitude x
    (i.search tie 22 (i.order + 3)).strip 400

end ExperimentQuery.Decimal
