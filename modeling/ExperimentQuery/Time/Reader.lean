import ExperimentQuery.Time.Instant
import ExperimentQuery.Decimal.Reader

/-!
# Reading dates and instants

The notation of RFC 3339 with some freedom: white space may stand around the parts, a month or a
day may have one digit, the date and the time are parted by `T`, `t` or a blank, any number of
decimals may follow the seconds, a second may be 60, and a year with a sign may have any number of
digits. The offset is `Z`, `UTC`, or hours and minutes.

* `field`: a number at the front of a text;
* `dateField`, `timeField`, `offsetField`: the parts of an instant;
* **`Date.read?`**, **`Instant.read?`**: a date and an instant that take up the whole text.
-/

namespace ExperimentQuery.Time

open Decimal (spanDigits digitsValue)

/-- The digits at the front of a text, `limit` at most. -/
def takeDigits (limit : Nat) (cs : List Char) : List Char × List Char :=
  let (ds, rest) := spanDigits cs
  (ds.take limit, ds.drop limit ++ rest)

/-- A number of at most `limit` digits at the front of a text. -/
def number (limit : Nat) (cs : List Char) : Option (Nat × List Char) :=
  let (ds, rest) := takeDigits limit cs
  if ds = [] then none else some (digitsValue ds, rest)

/-- A number of one or two digits from `low` to `high`, white space before it being passed over. -/
def field (low high : Nat) (cs : List Char) : Option (Nat × List Char) := do
  let (n, rest) ← number 2 (Text.trimStart cs)
  if low ≤ n ∧ n ≤ high then some (n, rest) else none

/-- A year: four digits at most, or any number of digits after a sign. -/
def yearField (cs : List Char) : Option (Int × List Char) :=
  match Text.trimStart cs with
  | '-' :: cs => (number cs.length cs).map fun (n, rest) => (-(n : Int), rest)
  | '+' :: cs => (number cs.length cs).map fun (n, rest) => ((n : Int), rest)
  | cs => (number 4 cs).map fun (n, rest) => ((n : Int), rest)

/-- What follows a separator, white space before it being passed over. -/
def separator (sep : Char) (cs : List Char) : Option (List Char) :=
  match Text.trimStart cs with
  | c :: rest => if c = sep then some rest else none
  | [] => none

/-- A date at the front of a text. -/
def dateField (cs : List Char) : Option (Date × List Char) := do
  let (year, cs) ← yearField cs
  let (month, cs) ← field 1 12 (← separator '-' cs)
  let (day, cs) ← field 1 31 (← separator '-' cs)
  let date : Date := ⟨year, month, day⟩
  if date.valid then some (date, cs) else none

/-- A time of day in nanoseconds: a whole number of seconds, `60` being a leap second, and the
decimals after them. -/
structure Clock where
  seconds : Nat
  nanos : Nat

/-- The decimals of a second, the first nine of which count. -/
def decimals (cs : List Char) : Option (Nat × List Char) :=
  match cs with
  | '.' :: cs =>
    let (ds, rest) := spanDigits cs
    if ds = [] then none
    else
      let kept := ds.take 9
      some (digitsValue kept * Nat.pow 10 (9 - kept.length), rest)
  | cs => some (0, cs)

/-- A time of day at the front of a text. -/
def timeField (cs : List Char) : Option (Clock × List Char) := do
  let (hour, cs) ← field 0 23 cs
  let (minute, cs) ← field 0 59 (← separator ':' cs)
  let (second, cs) ← field 0 60 (← separator ':' cs)
  let (nanos, cs) ← decimals cs
  let whole := hour * 3600 + minute * 60
  if second = 60 then some (⟨whole + 59, nanos + nanosPerSecond⟩, cs)
  else some (⟨whole + second, nanos⟩, cs)

/-- The value of two digits. -/
def twoDigits? : List Char → Option (Nat × List Char)
  | a :: b :: rest =>
    if a.isDigit ∧ b.isDigit then some (digitsValue [a, b], rest) else none
  | _ => none

/-- Hours and minutes in seconds, colons and white space standing between them or not. -/
def hoursAndMinutes (cs : List Char) : Option (Int × List Char) := do
  let (hours, cs) ← twoDigits? cs
  let (minutes, cs) ← twoDigits? (cs.dropWhile fun c => c == ':' || Unicode.isBlank c)
  if minutes < 60 then some ((hours * 3600 + minutes * 60 : Nat), cs) else none

/-- The seconds by which a place is ahead of universal time, less than a day. -/
def offsetField (cs : List Char) : Option (Int × List Char) := do
  let (offset, rest) ← match cs with
    | 'Z' :: rest | 'z' :: rest => some (0, rest)
    | '+' :: rest => hoursAndMinutes rest
    | '-' :: rest | '\u2212' :: rest => (hoursAndMinutes rest).map fun (n, rest) => (-n, rest)
    | a :: b :: c :: rest =>
      if String.ofList ([a, b, c].map Char.toUpper) = "UTC" then some (0, rest) else none
    | _ => none
  if offset.natAbs < 86400 then some (offset, rest) else none

/-- **The date that a text denotes**, with white space around it. -/
def Date.read? (text : String) : Option Date := do
  let (date, rest) ← dateField text.toList
  if Text.trimStart rest = [] then some date else none

/-- **The instant that a text denotes**, with white space around it. -/
def Instant.read? (text : String) : Option Instant := do
  let (date, cs) ← dateField text.toList
  let cs ← match cs with
    | 'T' :: cs | 't' :: cs | ' ' :: cs => some cs
    | _ => none
  let (clock, cs) ← timeField cs
  let (offset, rest) ← offsetField (Text.trimStart cs)
  let seconds := date.toDay * secondsPerDay + clock.seconds - offset
  if Text.trimStart rest = [] ∧ inCalendar (seconds / secondsPerDay) then
    some ⟨seconds, clock.nanos⟩
  else none

end ExperimentQuery.Time
