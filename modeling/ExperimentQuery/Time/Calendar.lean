import ExperimentQuery.Text.Basic
import ExperimentQuery.Decimal.Layout

/-!
# Calendar

Days are counted from 1 January 1970 in the Gregorian calendar, which is taken to hold for all
years. The calendar ends after the years -262143 and 262142.

* `Date`, `Date.valid`: a year, a month and a day of the month;
* `Date.toDay`, `Date.ofDay`: dates and day numbers;
* `Date.text`: a date as it is written.
-/

namespace ExperimentQuery.Time

/-- A date of the calendar. -/
structure Date where
  year : Int
  month : Nat
  day : Nat
  deriving Repr, DecidableEq

/-- Whether a year has a 29 February. -/
def isLeapYear (year : Int) : Bool := year % 4 == 0 && (year % 100 != 0 || year % 400 == 0)

/-- The number of days of a month. -/
def daysInMonth (year : Int) (month : Nat) : Nat :=
  if month = 2 then (if isLeapYear year then 29 else 28)
  else if month = 4 ∨ month = 6 ∨ month = 9 ∨ month = 11 then 30
  else 31

/-- The first year of the calendar. -/
def firstYear : Int := -262143

/-- The last year of the calendar. -/
def lastYear : Int := 262142

/-- Whether the calendar has a date. -/
def Date.valid (d : Date) : Bool :=
  firstYear ≤ d.year && d.year ≤ lastYear && 1 ≤ d.month && d.month ≤ 12 && 1 ≤ d.day &&
    d.day ≤ daysInMonth d.year d.month

/-- The days before the first of a month, counted from the first of March; January and February
belong to the year before. -/
def daysBeforeMonth (month : Nat) : Nat := (153 * ((month + 9) % 12) + 2) / 5

/-- The number of a date's day. -/
def Date.toDay (d : Date) : Int :=
  let year := if d.month ≤ 2 then d.year - 1 else d.year
  365 * year + year / 4 - year / 100 + year / 400 + daysBeforeMonth d.month + d.day - 719469

/-- The date of a day. -/
def Date.ofDay (n : Int) : Date :=
  let days := n + 719468
  let era := days / 146097
  let dayOfEra := (days % 146097).toNat
  let yearOfEra := (dayOfEra - dayOfEra / 1460 + dayOfEra / 36524 - dayOfEra / 146096) / 365
  let dayOfYear := dayOfEra - (365 * yearOfEra + yearOfEra / 4 - yearOfEra / 100)
  let marchMonth := (5 * dayOfYear + 2) / 153
  let month := if marchMonth < 10 then marchMonth + 3 else marchMonth - 9
  let year := (yearOfEra : Int) + era * 400
  { year := if month ≤ 2 then year + 1 else year
    month
    day := dayOfYear - (153 * marchMonth + 2) / 5 + 1 }

/-- The first day of the calendar. -/
def firstDay : Int := Date.toDay ⟨firstYear, 1, 1⟩

/-- The last day of the calendar. -/
def lastDay : Int := Date.toDay ⟨lastYear, 12, 31⟩

/-- Whether the calendar has a day. -/
def inCalendar (day : Int) : Bool := firstDay ≤ day && day ≤ lastDay

/-- A year of four digits or more; one that does not have just four has a sign. -/
def yearText (year : Int) : String :=
  if 0 ≤ year ∧ year ≤ 9999 then Text.padNat 4 year.natAbs
  else (if year < 0 then "-" else "+") ++ Text.padNat 4 year.natAbs

/-- A date as year, month and day. -/
def Date.text (d : Date) : String :=
  yearText d.year ++ "-" ++ Text.padNat 2 d.month ++ "-" ++ Text.padNat 2 d.day

end ExperimentQuery.Time
