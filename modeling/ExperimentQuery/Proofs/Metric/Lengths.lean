import ExperimentQuery.Proofs.Decimal.Rounding
import ExperimentQuery.Proofs.Metric.Revision

/-!
# Lengths of stored windows

A stored document gives the delay of its window as a value in a unit or as a number of hours, and
the length of its window as a value in a unit. The upgrade keeps a value with its unit. It takes a
number of hours, and the default length, in the unit of the document as well, which keeps them only
if that unit is hours or there is nothing to scale.

* `TimeUnit.toHours_eq_self_iff`: when a number means the same in a unit as in hours;
* `MetricRevision.KeepsDelay`, **`MetricRevision.keepsDelay_iff`**: when the delay is kept;
* `MetricRevision.KeepsLength`, **`MetricRevision.keepsLength_iff`**: when the length is kept, or
  the default stands for the one that is missing.
-/

namespace ExperimentQuery

open Decimal

/-! ## Units -/

theorem value?_seven : value? 7.0 = some 7 :=
  value?_of_unpack (m := 7 * 2 ^ 50) (e := -50) (by decide) rfl (by norm_num)

theorem value?_twentyFour : value? 24.0 = some 24 :=
  value?_of_unpack (m := 24 * 2 ^ 48) (e := -48) (by decide) rfl (by norm_num)

theorem value?_sixty : value? 60.0 = some 60 :=
  value?_of_unpack (m := 60 * 2 ^ 47) (e := -47) (by decide) rfl (by norm_num)

theorem value?_defaultWindowHours : value? defaultWindowHours = some 72 :=
  value?_of_unpack (m := 72 * 2 ^ 46) (e := -46) (by decide) rfl (by norm_num)

namespace TimeUnit

variable {u : TimeUnit} {x : Float}

/-- What is finite and not zero is longer or shorter in another unit than in hours. -/
theorem toHours_ne_self (hu : u ≠ .hours) {v : ℚ} (hx : value? x = some v) (hv : v ≠ 0) :
    u.toHours x ≠ x := by
  intro hsame
  have hpos : 0 < |v| := abs_pos.mpr hv
  cases u with
  | hours => exact hu rfl
  | minutes =>
    have hle := abs_le_div hx value?_sixty ((congrArg value? hsame).trans hx) hv
    rw [Nat.abs_ofNat] at hle
    linarith
  | days =>
    have hle := abs_mul_le hx value?_twentyFour ((congrArg value? hsame).trans hx) hv
    rw [Nat.abs_ofNat] at hle
    linarith
  | weeks =>
    change x * 24.0 * 7.0 = x at hsame
    by_cases hday : ∀ w, value? (x * 24.0) = some w → w = 0
    · -- the seven days are no longer than one, which is zero or not finite
      rw [mul_eq_self hday value?_seven (by norm_num)] at hsame
      exact hv (hday v ((congrArg value? hsame).trans hx))
    · obtain ⟨w, hw, hne⟩ : ∃ w, value? (x * 24.0) = some w ∧ w ≠ 0 := by simpa using hday
      have hdays := abs_mul_le hx value?_twentyFour hw hne
      have hweek := abs_mul_le hw value?_seven ((congrArg value? hsame).trans hx) hv
      rw [Nat.abs_ofNat] at hdays hweek
      linarith

/-- **When a number means the same in a unit as in hours**: the unit is hours, or the number is zero
or not finite. -/
theorem toHours_eq_self_iff :
    u.toHours x = x ↔ u = .hours ∨ ∀ v, value? x = some v → v = 0 := by
  constructor
  · refine fun hsame => or_iff_not_imp_left.mpr fun hu v hx => by_contra fun hv => ?_
    exact toHours_ne_self hu hx hv hsame
  · rintro (rfl | hx)
    · rfl
    · have hday : x * 24.0 = x := mul_eq_self hx value?_twentyFour (by norm_num)
      cases u with
      | hours => rfl
      | minutes => exact div_eq_self hx value?_sixty (by norm_num)
      | days => exact hday
      | weeks =>
        change x * 24.0 * 7.0 = x
        rw [hday]
        exact mul_eq_self hx value?_seven (by norm_num)

end TimeUnit

/-! ## Delays -/

namespace MetricRevision

variable (d : MetricRevision)

/-- The upgrade keeps the delay: a value with its unit, or else the number of hours. -/
def KeepsDelay : Prop :=
  match d.window with
  | none => d.upgrade.window.delayHours = d.conversionDelayHours.getD 0.0
  | some w =>
    match w.delayValue with
    | some value =>
      d.upgrade.window.delayValue = value ∧ d.upgrade.window.delayUnit = w.delayUnit.getD .hours
    | none => d.upgrade.window.delayHours = w.delayHours.getD 0.0

/-- The window settings have a number of hours for the delay, finite and not zero, beside a unit
that is not hours. -/
def RescalesDelay : Prop :=
  ∃ w, d.window = some w ∧ w.delayValue = none ∧ w.delayUnit.getD .hours ≠ .hours ∧
    ∃ v, value? (w.delayHours.getD 0.0) = some v ∧ v ≠ 0

/-- **The delay is kept**, unless it is a number of hours beside another unit. -/
theorem keepsDelay_iff : d.KeepsDelay ↔ ¬d.RescalesDelay := by
  unfold KeepsDelay RescalesDelay
  cases hwindow : d.window with
  | none =>
    have hkept : d.upgrade.window.delayHours = d.conversionDelayHours.getD 0.0 := by
      rw [upgrade, upgradeWindow, hwindow]
      rfl
    simpa using hkept
  | some w =>
    have hupgrade : d.upgrade.window = w.upgrade := by rw [upgrade, upgradeWindow, hwindow]
    rw [hupgrade]
    cases hvalue : w.delayValue with
    | some value => simp [WindowRevision.upgrade, hvalue]
    | none =>
      have hhours : w.upgrade.delayHours =
          (w.delayUnit.getD .hours).toHours (w.delayHours.getD 0.0) := by
        rw [WindowRevision.upgrade, WindowSettings.delayHours, hvalue]
        rfl
      simp only [hvalue, hhours, TimeUnit.toHours_eq_self_iff, Option.some.injEq,
        exists_eq_left', true_and, not_and, not_exists, not_not, or_iff_not_imp_left, ne_eq]

/-- A delay of four hours beside the unit of days becomes four days. -/
theorem not_keepsDelay_days :
    ∃ d, ofJson? (signupDocument [("type", .str "conversion"), ("delayHours", .float 4.0),
        ("delayUnit", .str "days"), ("windowValue", .float 24.0)]) = some d ∧
      d.upgrade.window.delayHours = 96.0 ∧ ¬d.KeepsDelay := by
  refine ⟨_, rfl, by decide, ?_⟩
  change ¬(_ : Float) = 4.0
  decide

/-! ## Lengths -/

/-- The length of the window, when the document gives one. -/
def windowLength? : Option Float :=
  match d.window with
  | some w => w.windowValue
  | none => d.conversionWindowValue.filter (· != 0.0)

/-- The unit of that length, when the document gives one. -/
def windowUnit? : Option TimeUnit :=
  match d.window with
  | some w => w.windowUnit
  | none => d.conversionWindowUnit

/-- The upgrade keeps the length with its unit, and a length that is missing becomes 72 hours. -/
def KeepsLength : Prop :=
  match d.windowLength? with
  | some value =>
    d.upgrade.window.windowValue = value ∧
      d.upgrade.window.windowUnit = d.windowUnit?.getD .hours
  | none => d.upgrade.window.windowHours = 72.0

theorem window_upgrade :
    d.upgrade.window.windowValue = d.windowLength?.getD defaultWindowHours ∧
      d.upgrade.window.windowUnit = d.windowUnit?.getD .hours := by
  rw [upgrade, upgradeWindow, windowLength?, windowUnit?]
  cases d.window with
  | none => exact ⟨rfl, rfl⟩
  | some w => exact ⟨rfl, rfl⟩

/-- **The length is kept, or it is missing and the default stands for it**, unless the default is
taken in a unit that is not hours. -/
theorem keepsLength_iff :
    d.KeepsLength ↔ d.windowLength?.isSome ∨ d.windowUnit?.getD .hours = .hours := by
  obtain ⟨hvalue, hunit⟩ := d.window_upgrade
  unfold KeepsLength
  cases hlength : d.windowLength? with
  | some value =>
    rw [hlength] at hvalue
    simp [hvalue, hunit]
  | none =>
    rw [hlength] at hvalue
    have hhours : d.upgrade.window.windowHours =
        (d.windowUnit?.getD .hours).toHours defaultWindowHours := by
      rw [WindowSettings.windowHours, hvalue, hunit]
      rfl
    have hlong : ¬∀ v, value? defaultWindowHours = some v → v = 0 := fun hzero =>
      absurd (hzero 72 value?_defaultWindowHours) (by norm_num)
    have hdefault : (72.0 : Float) = defaultWindowHours := rfl
    simp only [hhours, hdefault, TimeUnit.toHours_eq_self_iff, hlong, or_false, Option.isSome_none,
      Bool.false_eq_true, false_or]

/-- A conversion window without a length lasts 72 days if its unit is days. -/
theorem not_keepsLength_days :
    ∃ d, ofJson? (signupDocument [("type", .str "conversion"), ("windowUnit", .str "days")]) =
        some d ∧
      d.upgrade.window.windowHours = 1728.0 ∧ ¬d.KeepsLength := by
  refine ⟨_, rfl, by decide, ?_⟩
  change ¬(_ : Float) = 72.0
  decide

end MetricRevision

end ExperimentQuery
