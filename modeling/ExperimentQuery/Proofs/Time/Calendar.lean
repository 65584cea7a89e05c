import ExperimentQuery.Time.Calendar
import Mathlib.Tactic.IntervalCases
import Mathlib.Tactic.SplitIfs

/-!
# Days and dates

Every day has a date, and the date leads back to the day. The days are counted in eras of 400 years,
and the years of an era begin in March, so that a leap day is the last day of its year.

* `daysBeforeYear`, `yearOfEra`: the years of an era and their first days;
* `Date.ofDay_eq`: the date of a day by era, year and month;
* **`Date.toDay_ofDay`**: the day of the date of a day;
* **`Date.valid_ofDay`**: the calendar has the dates of its days.
-/

namespace ExperimentQuery.Time

/-! ## Years of an era -/

/-- The days of an era. -/
def daysPerEra : Nat := 146097

/-- The days of an era before one of its years. -/
def daysBeforeYear (year : Nat) : Nat := 365 * year + year / 4 - year / 100

/-- The days before a day of an era, leap days left out. -/
def plainDays (day : Nat) : Nat := day - day / 1460 + day / 36524 - day / 146096

/-- The year in which a day of an era lies. -/
def yearOfEra (day : Nat) : Nat := plainDays day / 365

/-- The days of a year before a day of an era. -/
def dayOfYear (day : Nat) : Nat := day - daysBeforeYear (yearOfEra day)

section

variable {day : Nat} (h : day < daysPerEra)

include h

theorem plainDays_mono {a : Nat} (ha : a ≤ day) : plainDays a ≤ plainDays day := by
  unfold daysPerEra at h
  unfold plainDays
  omega

omit h in
/-- Where a year begins, 365 plain days for each year before it have passed, and not a day
earlier. -/
theorem plainDays_daysBeforeYear : ∀ year < 400,
    365 * year ≤ plainDays (daysBeforeYear year) ∧
      (0 < year → plainDays (daysBeforeYear year - 1) < 365 * year) := by
  decide +kernel

theorem yearOfEra_lt : yearOfEra day < 400 := by
  have hmono : plainDays day ≤ plainDays 146096 :=
    plainDays_mono (by decide) (Nat.le_of_lt_succ h)
  have hlast : plainDays 146096 = 145999 := rfl
  unfold yearOfEra
  omega

theorem daysBeforeYear_yearOfEra_le : daysBeforeYear (yearOfEra day) ≤ day := by
  refine Nat.le_of_not_lt fun hlt => ?_
  have hpos : 0 < yearOfEra day := by
    refine Nat.pos_of_ne_zero fun hzero => ?_
    rw [hzero] at hlt
    exact Nat.not_lt_zero day hlt
  have hyear := yearOfEra_lt h
  have hbound : daysBeforeYear (yearOfEra day) - 1 < daysPerEra := by
    unfold daysBeforeYear daysPerEra
    omega
  have hmono : plainDays day ≤ plainDays (daysBeforeYear (yearOfEra day) - 1) :=
    plainDays_mono hbound (by omega)
  have htable := (plainDays_daysBeforeYear _ hyear).2 hpos
  have hdiv : 365 * yearOfEra day ≤ plainDays day := Nat.mul_div_le _ _
  omega

theorem lt_daysBeforeYear_succ (hyear : yearOfEra day + 1 < 400) :
    day < daysBeforeYear (yearOfEra day + 1) := by
  refine Nat.lt_of_not_le fun hle => ?_
  have hmono : plainDays (daysBeforeYear (yearOfEra day + 1)) ≤ plainDays day :=
    plainDays_mono h hle
  have htable := (plainDays_daysBeforeYear _ hyear).1
  have hdiv : plainDays day < 365 * (yearOfEra day + 1) := by
    unfold yearOfEra
    omega
  omega

omit h in
theorem daysBeforeYear_succ (year : Nat) :
    daysBeforeYear (year + 1) = daysBeforeYear year + 365 +
      if (year + 1) % 4 = 0 ∧ (year + 1) % 100 ≠ 0 then 1 else 0 := by
  have h4 : (year + 1) / 4 = year / 4 + if (year + 1) % 4 = 0 then 1 else 0 := by
    split <;> omega
  have h100 : (year + 1) / 100 = year / 100 + if (year + 1) % 100 = 0 then 1 else 0 := by
    split <;> omega
  unfold daysBeforeYear
  rw [h4, h100]
  split_ifs <;> omega

/-- A year has 366 days at most, and only the year of a leap day has that many. -/
theorem dayOfYear_le : dayOfYear day ≤ 365 ∧
    (dayOfYear day = 365 → (yearOfEra day + 1) % 4 = 0 ∧
      ((yearOfEra day + 1) % 100 ≠ 0 ∨ (yearOfEra day + 1) % 400 = 0)) := by
  have hyear := yearOfEra_lt h
  have hle := daysBeforeYear_yearOfEra_le h
  unfold daysPerEra at h
  unfold dayOfYear
  rcases Nat.lt_or_ge (yearOfEra day + 1) 400 with hlt | hge
  · have hsucc := lt_daysBeforeYear_succ h hlt
    rw [daysBeforeYear_succ] at hsucc
    split_ifs at hsucc with hleap <;> omega
  · have hlast : yearOfEra day = 399 := by omega
    rw [hlast] at hle ⊢
    unfold daysBeforeYear at *
    omega

theorem daysBeforeYear_add_dayOfYear : daysBeforeYear (yearOfEra day) + dayOfYear day = day := by
  have hle := daysBeforeYear_yearOfEra_le h
  unfold dayOfYear
  omega

end

/-! ## Months of a year -/

/-- The month of a day of a year, counted from March. -/
def marchMonth (dayOfYear : Nat) : Nat := (5 * dayOfYear + 2) / 153

/-- The days of a year before a month counted from March. -/
def daysBeforeMarchMonth (month : Nat) : Nat := (153 * month + 2) / 5

/-- The number of a month counted from March. -/
def monthOfMarch (month : Nat) : Nat := if month < 10 then month + 3 else month - 9

theorem daysBeforeMonth_monthOfMarch {month : Nat} (h : month ≤ 11) :
    daysBeforeMonth (monthOfMarch month) = daysBeforeMarchMonth month := by
  unfold daysBeforeMonth monthOfMarch daysBeforeMarchMonth
  split <;> omega

theorem marchMonth_le {dayOfYear : Nat} (h : dayOfYear ≤ 365) : marchMonth dayOfYear ≤ 11 := by
  unfold marchMonth
  omega

theorem daysBeforeMarchMonth_marchMonth_le (dayOfYear : Nat) :
    daysBeforeMarchMonth (marchMonth dayOfYear) ≤ dayOfYear := by
  unfold daysBeforeMarchMonth marchMonth
  omega

theorem lt_daysBeforeMarchMonth_succ (dayOfYear : Nat) :
    dayOfYear < daysBeforeMarchMonth (marchMonth dayOfYear + 1) := by
  unfold daysBeforeMarchMonth marchMonth
  omega

/-! ## Dates -/

/-- The era of a day. -/
def era (n : Int) : Int := (n + 719468) / 146097

/-- The days of its era before a day. -/
def dayOfEra (n : Int) : Nat := ((n + 719468) % 146097).toNat

theorem dayOfEra_lt (n : Int) : dayOfEra n < daysPerEra := by
  unfold dayOfEra daysPerEra
  omega

theorem era_add_dayOfEra (n : Int) : 146097 * era n + dayOfEra n = n + 719468 := by
  unfold era dayOfEra
  omega

/-- The year of a day, which begins in March. -/
def marchYear (n : Int) : Int := (yearOfEra (dayOfEra n) : Int) + era n * 400

/-- The date of a day by its year and its month, both counted from March. -/
theorem Date.ofDay_eq (n : Int) :
    Date.ofDay n =
      let dayOfYear := dayOfYear (dayOfEra n)
      let month := monthOfMarch (marchMonth dayOfYear)
      { year := if month ≤ 2 then marchYear n + 1 else marchYear n
        month
        day := dayOfYear - daysBeforeMarchMonth (marchMonth dayOfYear) + 1 } := rfl

/-- The days before a year that begins in March, counted from the year 0. -/
def daysToYear (year : Int) : Int := 365 * year + year / 4 - year / 100 + year / 400

theorem daysToYear_add_le {a b : Int} (h : a < b) : daysToYear a + 365 ≤ daysToYear b := by
  unfold daysToYear
  omega

theorem daysToYear_marchYear (n : Int) :
    daysToYear (marchYear n) + dayOfYear (dayOfEra n) = n + 719468 := by
  have hyear := yearOfEra_lt (dayOfEra_lt n)
  have hsum := daysBeforeYear_add_dayOfYear (dayOfEra_lt n)
  have hera := era_add_dayOfEra n
  have hdays : daysToYear (marchYear n) =
      146097 * era n + daysBeforeYear (yearOfEra (dayOfEra n)) := by
    unfold daysToYear marchYear daysBeforeYear
    omega
  omega

/-- **The day of the date of a day** is the day. -/
theorem Date.toDay_ofDay (n : Int) : (Date.ofDay n).toDay = n := by
  have hday := dayOfYear_le (dayOfEra_lt n)
  have hmonth := daysBeforeMonth_monthOfMarch (marchMonth_le hday.1)
  have hle := daysBeforeMarchMonth_marchMonth_le (dayOfYear (dayOfEra n))
  have hn := daysToYear_marchYear n
  have hyear : (if (Date.ofDay n).month ≤ 2 then (Date.ofDay n).year - 1
      else (Date.ofDay n).year) = marchYear n := by
    rw [Date.ofDay_eq]
    dsimp only
    split
    · omega
    · rfl
  have htoDay : (Date.ofDay n).toDay =
      daysToYear (marchYear n) + daysBeforeMonth (Date.ofDay n).month + (Date.ofDay n).day -
        719469 := by
    rw [← hyear]
    rfl
  rw [htoDay, Date.ofDay_eq]
  dsimp only
  rw [hmonth]
  omega

theorem daysBeforeMarchMonth_succ {month : Nat} (h : month < 11) (year : Int) :
    daysBeforeMarchMonth (month + 1) =
      daysBeforeMarchMonth month + daysInMonth year (monthOfMarch month) := by
  interval_cases month <;> rfl

theorem isLeapYear_marchYear_succ {n : Int} (h : dayOfYear (dayOfEra n) = 365) :
    isLeapYear (marchYear n + 1) := by
  obtain ⟨h4, h100⟩ := (dayOfYear_le (dayOfEra_lt n)).2 h
  unfold isLeapYear marchYear
  simp only [Bool.and_eq_true, Bool.or_eq_true, beq_iff_eq, bne_iff_ne]
  omega

theorem Date.day_ofDay_le (n : Int) :
    (Date.ofDay n).day ≤ daysInMonth (Date.ofDay n).year (Date.ofDay n).month := by
  have hday := dayOfYear_le (dayOfEra_lt n)
  have hle := daysBeforeMarchMonth_marchMonth_le (dayOfYear (dayOfEra n))
  rw [Date.ofDay_eq]
  dsimp only
  rcases Nat.lt_or_ge (marchMonth (dayOfYear (dayOfEra n))) 11 with hlt | hge
  · have hnext := lt_daysBeforeMarchMonth_succ (dayOfYear (dayOfEra n))
    rw [daysBeforeMarchMonth_succ hlt] at hnext
    exact Nat.succ_le_of_lt (Nat.sub_lt_left_of_lt_add hle hnext)
  · -- the last month, February, has its length from the year
    have hlast : marchMonth (dayOfYear (dayOfEra n)) = 11 :=
      Nat.le_antisymm (marchMonth_le hday.1) hge
    rw [hlast]
    by_cases hleap : isLeapYear (marchYear n + 1)
    · simp [monthOfMarch, daysInMonth, hleap, daysBeforeMarchMonth]
      omega
    · have hne : dayOfYear (dayOfEra n) ≠ 365 := fun h => hleap (isLeapYear_marchYear_succ h)
      simp [monthOfMarch, daysInMonth, hleap, daysBeforeMarchMonth]
      omega

theorem Date.month_ofDay_bounds (n : Int) :
    1 ≤ (Date.ofDay n).month ∧ (Date.ofDay n).month ≤ 12 := by
  have hmonth := marchMonth_le (dayOfYear_le (dayOfEra_lt n)).1
  rw [Date.ofDay_eq]
  dsimp only
  unfold monthOfMarch
  split <;> omega

theorem Date.year_ofDay_bounds {n : Int} (h : inCalendar n) :
    firstYear ≤ (Date.ofDay n).year ∧ (Date.ofDay n).year ≤ lastYear := by
  have hfirst : firstDay = daysToYear (firstYear - 1) + 306 - 719468 := rfl
  have hlast : lastDay = daysToYear lastYear + 305 - 719468 := rfl
  simp only [inCalendar, hfirst, hlast, Bool.and_eq_true, decide_eq_true_eq] at h
  have hn := daysToYear_marchYear n
  have hday := (dayOfYear_le (dayOfEra_lt n)).1
  have hlow : firstYear - 1 ≤ marchYear n := by
    refine Int.not_lt.mp fun hlt => ?_
    have hmono := daysToYear_add_le hlt
    omega
  have hhigh : marchYear n ≤ lastYear := by
    refine Int.not_lt.mp fun hlt => ?_
    have hmono := daysToYear_add_le hlt
    omega
  -- only the first and the last year are cut off by the ends of the calendar
  have hstart : marchYear n = firstYear - 1 → 306 ≤ dayOfYear (dayOfEra n) := by
    intro heq
    rw [heq] at hn
    omega
  have hstop : marchYear n = lastYear → dayOfYear (dayOfEra n) ≤ 305 := by
    intro heq
    rw [heq] at hn
    omega
  rw [Date.ofDay_eq]
  unfold marchMonth monthOfMarch
  dsimp only
  split_ifs <;> omega

/-- **The calendar has the dates of its days.** -/
theorem Date.valid_ofDay {n : Int} (h : inCalendar n) : (Date.ofDay n).valid := by
  have hyear := Date.year_ofDay_bounds h
  have hmonth := Date.month_ofDay_bounds n
  have hday := Date.day_ofDay_le n
  have hpos : 1 ≤ (Date.ofDay n).day := by
    rw [Date.ofDay_eq]
    exact Nat.le_add_left 1 _
  simp only [Date.valid, Bool.and_eq_true, decide_eq_true_eq]
  exact ⟨⟨⟨⟨⟨hyear.1, hyear.2⟩, hmonth.1⟩, hmonth.2⟩, hpos⟩, hday⟩

end ExperimentQuery.Time
