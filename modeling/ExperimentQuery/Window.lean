import ExperimentQuery.Metric.Basic

/-!
# Windows and caps

A window becomes bounds on the time between the reference instant of a user and an event, or on
the time between an event and the end of the experiment. A cap is a ceiling on a user's value.

* `hoursToMillis`: hours in whole milliseconds;
* `FitsInt64`, `wrap64`: whole numbers of 64 bits;
* `WindowBound`, `WindowBound.holds`, `within`;
* **`WindowSettings.bounds`**: the bounds of a window;
* `CappingSettings.ceiling?`, `applyCap`.
-/

namespace ExperimentQuery

/-- Hours in whole milliseconds, halves going away from zero; 64 bits hold the result or its
nearest bound. -/
def hoursToMillis (hours : Float) : Int := (hours * 3600000.0).round.toInt64.toInt

/-- Whether 64 bits hold a number. -/
def FitsInt64 (n : Int) : Prop := -(Nat.pow 2 63 : Int) ≤ n ∧ n < (Nat.pow 2 63 : Int)

/-- The signed number that 64 bits hold of a number. -/
def wrap64 (n : Int) : Int := n.bmod (Nat.pow 2 64)

theorem wrap64_of_fits {n : Int} (h : FitsInt64 n) : wrap64 n = n :=
  Int.bmod_eq_of_le h.1 h.2

/-- One condition on the time of an event. -/
inductive WindowBound where
  /-- The event comes at least this long after the reference instant. -/
  | elapsedAtLeast (ms : Int)
  /-- The event comes less than this long after the reference instant. -/
  | elapsedBelow (ms : Int)
  /-- The event comes at most this long before the end. -/
  | lookback (stop length : Int)
  deriving Repr, DecidableEq

/-- Whether an event at `time` satisfies a bound for a user with this reference instant. -/
def WindowBound.holds (time start : Int) : WindowBound → Bool
  | elapsedAtLeast ms => ms ≤ time - start
  | elapsedBelow ms => time - start < ms
  | lookback stop length => stop - time ≤ length

/-- Whether all bounds hold. -/
def within (bounds : List WindowBound) (time start : Int) : Bool :=
  bounds.all (·.holds time start)

namespace WindowSettings

/-- The delay in milliseconds. -/
def delayMillis (w : WindowSettings) : Int := hoursToMillis w.delayHours

/-- The length of the window in milliseconds. -/
def windowMillis (w : WindowSettings) : Int := hoursToMillis w.windowHours

/-- The time from the reference instant to the end of the window in milliseconds, in 64 bits. -/
def endMillis (w : WindowSettings) : Int := wrap64 (w.delayMillis + w.windowMillis)

/-- The lower bound: none for a zero delay. -/
def lowerBounds (w : WindowSettings) : List WindowBound :=
  if w.delayMillis = 0 then [] else [.elapsedAtLeast w.delayMillis]

/-- **The bounds of a window** in an experiment that ends at `stop`. -/
def bounds (w : WindowSettings) (stop : Time.Instant) : List WindowBound :=
  w.lowerBounds ++
    match w.kind with
    | .none => []
    | .conversion => [.elapsedBelow w.endMillis]
    | .lookback => [.lookback stop.millis w.windowMillis]

end WindowSettings

/-- The ceiling of a cap, if it has one. -/
def CappingSettings.ceiling? (c : CappingSettings) : Option Float :=
  match c.kind with
  | .absolute => if 0 < c.value then some c.value else none
  | .none => none

/-- The lesser of two numbers; one that is not a number counts for nothing. -/
def lesser (a b : Float) : Float := if a.isNaN || b < a then b else a

/-- The greater of two numbers; one that is not a number counts for nothing. -/
def greater (a b : Float) : Float := if a.isNaN || a < b then b else a

/-- A value under a cap; binomial values are never capped. -/
def applyCap (binomial : Bool) (cap : Option Float) (value : Float) : Float :=
  match cap with
  | some ceiling => if binomial then value else lesser value ceiling
  | none => value

end ExperimentQuery
