import ExperimentQuery.Event
import ExperimentQuery.Proofs.Decimal.Bits
import ExperimentQuery.Proofs.Decimal.Digits
import ExperimentQuery.Proofs.Decimal.Whole

/-!
# Numbers as text

A script writes a number without an exponent from the order -6 to 20, and without a point when it is
whole. The interpreter does so for small whole numbers only; other numbers it writes as JSON
documents hold them, with one decimal at least and an exponent outside of the orders -5 to 15.

* `numberText`: a number as text in a script;
* `numberText_of_isShortInteger`: both sides write a small whole number alike;
* `SameLayout`, `layout_eq_iff`: the decimals of one layout in scripts and in documents;
* `WrittenAlike`, **`numberText_eq_asText_float_iff`**, `numberText_eq_asText_int_iff`: the numbers
  that both sides write alike.
-/

namespace ExperimentQuery.Script

open Decimal (Scientific shortest positional exponential signed document isShortInteger)

/-- The layout of a decimal in a script. -/
def layout (d : Scientific) : String :=
  if d.digits = 0 ∨ (-6 ≤ d.order ∧ d.order ≤ 20) then positional "" d else exponential d

/-- **A number as text in a script.** -/
def numberText (x : Float) : String :=
  if x.isNaN then "NaN"
  else if x == 0 then "0"
  else if x.isInf then (if x > 0 then "Infinity" else "-Infinity")
  else signed x.toBits (layout (shortest .even x.toBits))

theorem not_isNaN_of_isFinite {x : Float} (h : x.isFinite) : x.isNaN = false ∧ x.isInf = false := by
  change x.toModel.unpack.isFinite = true at h
  change x.toModel.unpack.isNaN = false ∧ x.toModel.unpack.isInf = false
  generalize x.toModel.unpack = u at *
  cases u with
  | finite | zero => exact ⟨rfl, rfl⟩
  | infinity | notANumber => cases h

theorem numberText_of_isFinite {x : Float} (h : x.isFinite) :
    numberText x =
      if x == 0 then "0" else signed x.toBits (layout (shortest .even x.toBits)) := by
  obtain ⟨hnan, hinf⟩ := not_isNaN_of_isFinite h
  rw [numberText, hnan, hinf]
  rfl

/-! ## Small whole numbers -/

theorem numberText_of_isShortInteger {x : Float} (h : isShortInteger x) :
    numberText x = if x == 0 then "0" else Decimal.plain x := by
  rw [isShortInteger, Bool.and_eq_true] at h
  obtain ⟨n, hn⟩ := Decimal.shortest_whole h.2
  obtain ⟨hup, -⟩ := hn .up
  obtain ⟨heven, hlow, hhigh⟩ := hn .even
  have horder : -6 ≤ (shortest .even x.toBits).order ∧ (shortest .even x.toBits).order ≤ 20 := by
    omega
  have hlayout : layout (shortest .even x.toBits) = positional "" (shortest .up x.toBits) := by
    rw [layout, if_pos (Or.inr horder), heven, hup]
  rw [numberText_of_isFinite h.1, hlayout, Decimal.plain]

theorem not_beq_zero_of_not_isShortInteger {x : Float} (hx : x.isFinite) (h : ¬isShortInteger x) :
    (x == 0) = false := by
  refine Bool.eq_false_iff.mpr fun hzero => h ?_
  have hmantissa := mantissa_of_beq_zero hzero
  rw [isShortInteger, hx, Bool.true_and, Decimal.Magnitude.isWholeBelow, hmantissa, Nat.zero_mod,
    Nat.zero_mul, Bool.and_eq_true, decide_eq_true_eq, decide_eq_true_eq]
  exact ⟨rfl, Nat.mul_pos (Nat.pow_pos (by decide)) (Nat.pow_pos (by decide))⟩

/-! ## Layouts -/

theorem signed_inj {bits : UInt64} {s t : String} : signed bits s = signed bits t ↔ s = t := by
  unfold signed
  split
  · exact String.append_right_inj "-"
  · exact Iff.rfl

/-- The layout of a script and the one of a document coincide. -/
def SameLayout (d : Scientific) : Prop :=
  if d.digits = 0 ∨ (-5 ≤ d.order ∧ d.order ≤ 15) then d.exponent < 0
  else d.order < -6 ∨ 20 < d.order

theorem positional_point_iff (d : Scientific) :
    positional "" d = positional ".0" d ↔ d.exponent < 0 := by
  unfold positional
  dsimp only
  by_cases hwhole : d.exponent ≥ 0
  · rw [if_pos hwhole, if_pos hwhole]
    refine iff_of_false (fun heq => ?_) (by omega)
    exact absurd ((String.append_right_inj _).mp heq) (by decide)
  · rw [if_neg hwhole, if_neg hwhole]
    exact iff_of_true rfl (by omega)

theorem positional_ne_exponential (d : Scientific) : positional "" d ≠ exponential d := by
  intro heq
  have hmem : 'e' ∈ (exponential d).toList := by
    simp [exponential]
  rw [← heq] at hmem
  rcases mem_positional 'e' hmem with h | h <;> cases h

theorem layout_eq_iff (d : Scientific) :
    layout d = (if d.digits = 0 ∨ (-5 ≤ d.order ∧ d.order ≤ 15) then positional ".0" d
      else exponential d) ↔ SameLayout d := by
  unfold layout SameLayout
  by_cases hnear : d.digits = 0 ∨ (-5 ≤ d.order ∧ d.order ≤ 15)
  · rw [if_pos hnear, if_pos hnear, if_pos (by omega)]
    exact positional_point_iff d
  rw [if_neg hnear, if_neg hnear]
  by_cases hfar : d.digits = 0 ∨ (-6 ≤ d.order ∧ d.order ≤ 20)
  · rw [if_pos hfar]
    exact iff_of_false (positional_ne_exponential d) (by omega)
  · rw [if_neg hfar]
    exact iff_of_true rfl (by omega)

/-! ## Both sides -/

/-- Both sides write a number alike: it is small and whole, or its layouts coincide, or, for a whole
number as JSON has it, the digits of the nearest double are its own. -/
def WrittenAlike : Json → Prop
  | .int n =>
    isShortInteger (Decimal.wholeFloat n) ∨
      numberText (Decimal.wholeFloat n) = Decimal.intText n
  | .float x => isShortInteger x ∨ SameLayout (shortest .even x.toBits)
  | _ => True

theorem asText_of_isShortInteger {v : Json} {x : Float} (hv : v.number? = some x)
    (h : isShortInteger x) : Json.asText (some v) = numberText x := by
  rw [numberText_of_isShortInteger h]
  cases v with
  | int n =>
    cases hv
    exact if_pos h
  | float y =>
    cases hv
    exact if_pos h
  | _ => cases hv

theorem asText_int {n : Int} (h : ¬isShortInteger (Decimal.wholeFloat n)) :
    Json.asText (some (.int n)) = Decimal.intText n :=
  (if_neg h).trans String.ofList_toList

theorem asText_float {x : Float} (hx : x.isFinite) (h : ¬isShortInteger x) :
    Json.asText (some (.float x)) = document x := by
  have hcompact : (Json.float x).compact = document x := by
    change String.ofList (if x.isFinite then (document x).toList else _) = document x
    rw [if_pos hx, String.ofList_toList]
  exact (if_neg h).trans hcompact

theorem numberText_eq_asText_int_iff (n : Int) :
    numberText (Decimal.wholeFloat n) = Json.asText (some (.int n)) ↔ WrittenAlike (.int n) := by
  by_cases hshort : isShortInteger (Decimal.wholeFloat n)
  · rw [asText_of_isShortInteger rfl hshort]
    exact iff_of_true rfl (.inl hshort)
  · rw [asText_int hshort]
    exact (or_iff_right hshort).symm

/-- **The numbers with decimals that both sides write alike.** -/
theorem numberText_eq_asText_float_iff {x : Float} (hx : x.isFinite) :
    numberText x = Json.asText (some (.float x)) ↔ WrittenAlike (.float x) := by
  by_cases hshort : isShortInteger x
  · rw [asText_of_isShortInteger rfl hshort]
    exact iff_of_true rfl (.inl hshort)
  · have hzero : ¬(x == 0) = true := by
      rw [not_beq_zero_of_not_isShortInteger hx hshort]
      exact Bool.false_ne_true
    rw [asText_float hx hshort, numberText_of_isFinite hx, if_neg hzero, document]
    refine signed_inj.trans ((layout_eq_iff _).trans ?_)
    exact (or_iff_right hshort).symm

end ExperimentQuery.Script
