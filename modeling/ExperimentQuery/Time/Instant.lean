import ExperimentQuery.Time.Calendar

/-!
# Instants

An instant is a count of seconds since the start of 1970 and the nanoseconds after it, in universal
time. A leap second is the second before it, prolonged.

* `Instant`, `Instant.millis`, `Instant.day`;
* `Instant.rfc3339`: the text of an instant with as many places as it needs;
* `Instant.rfc3339Millis`: its text with milliseconds;
* `Instant.plainText`: its date and time of day;
* `dayOfMillis?`: the day of a time in milliseconds, if the calendar has it.
-/

namespace ExperimentQuery.Time

/-- A point in time; from `nanos = 10^9` on it lies in the leap second after `seconds`. -/
structure Instant where
  seconds : Int
  nanos : Nat
  deriving Repr, DecidableEq, Inhabited

/-- The seconds of a day. -/
def secondsPerDay : Int := 86400

/-- The milliseconds of a day. -/
def millisPerDay : Int := 86400000

/-- The nanoseconds of a second. -/
def nanosPerSecond : Nat := 1000000000

namespace Instant

/-- Milliseconds since the start of 1970, rounded down. -/
def millis (t : Instant) : Int := t.seconds * 1000 + t.nanos / 1000000

/-- The day of an instant. -/
def day (t : Instant) : Int := t.seconds / secondsPerDay

/-- The date of an instant. -/
def date (t : Instant) : Date := Date.ofDay t.day

/-- The seconds since midnight. -/
def secondOfDay (t : Instant) : Nat := (t.seconds % secondsPerDay).toNat

/-- Hours, minutes and seconds, the last being 60 in a leap second. -/
def timeText (t : Instant) : String :=
  let s := t.secondOfDay
  Text.padNat 2 (s / 3600) ++ ":" ++ Text.padNat 2 (s / 60 % 60) ++ ":" ++
    Text.padNat 2 (s % 60 + t.nanos / nanosPerSecond)

/-- The nanoseconds within the shown second. -/
def fraction (t : Instant) : Nat := t.nanos % nanosPerSecond

/-- A point and three, six or nine digits, as many as the fraction of the second needs; nothing
when there is no fraction. -/
def fractionText (t : Instant) : String :=
  let n := t.fraction
  if n = 0 then ""
  else if n % 1000000 = 0 then "." ++ Text.padNat 3 (n / 1000000)
  else if n % 1000 = 0 then "." ++ Text.padNat 6 (n / 1000)
  else "." ++ Text.padNat 9 n

/-- An instant as documents hold it. -/
def rfc3339 (t : Instant) : String := t.date.text ++ "T" ++ t.timeText ++ t.fractionText ++ "Z"

/-- An instant with milliseconds. -/
def rfc3339Millis (t : Instant) : String :=
  t.date.text ++ "T" ++ t.timeText ++ "." ++ Text.padNat 3 (t.fraction / 1000000) ++ "Z"

/-- An instant as date and time of day, to the second. -/
def plainText (t : Instant) : String := t.date.text ++ " " ++ t.timeText

end Instant

/-- The day of a time in milliseconds, if the calendar has it. -/
def dayOfMillis? (time : Int) : Option Int :=
  let day := time / millisPerDay
  if inCalendar day then some day else none

end ExperimentQuery.Time
