import ExperimentQuery.Decimal.Layout
import ExperimentQuery.Decimal.Reader
import ExperimentQuery.Text.Basic
import Mathlib.Data.List.TakeDrop
import Mathlib.Data.List.TakeWhile

/-!
# Runs of digits

A number that is written with zeros before it up to a width is read back from the run of its digits,
if no further digit follows.

* `EndsDigits`: a text that does not continue a run of digits;
* `padDigits`: the digits of a number with zeros before them;
* **`spanDigits_append`**, **`digitsValue_padDigits`**: the run is found, and has the value;
* `digitsValue_lt`: no run of digits has a greater value than its length allows;
* `mem_positional`: a number without an exponent is digits with a point at most.
-/

namespace ExperimentQuery

open Decimal (spanDigits digitsValue)

/-- The text does not begin with a digit. -/
def EndsDigits : List Char → Prop
  | [] => True
  | c :: _ => c.isDigit = false

theorem spanDigits_append {ds rest : List Char} (hds : ∀ c ∈ ds, c.isDigit)
    (hrest : EndsDigits rest) : spanDigits (ds ++ rest) = (ds, rest) := by
  have hend : rest.takeWhile Char.isDigit = [] ∧ rest.dropWhile Char.isDigit = rest := by
    cases rest with
    | nil => exact ⟨rfl, rfl⟩
    | cons c rest =>
      have hc : c.isDigit = false := hrest
      simp [hc]
  rw [spanDigits, List.span_eq_takeWhile_dropWhile, List.takeWhile_append_of_pos hds,
    List.dropWhile_append_of_pos hds, hend.1, hend.2, List.append_nil]

theorem append_spanDigits (cs : List Char) : (spanDigits cs).1 ++ (spanDigits cs).2 = cs := by
  rw [spanDigits, List.span_eq_takeWhile_dropWhile]
  exact List.takeWhile_append_dropWhile

theorem endsDigits_spanDigits (cs : List Char) : EndsDigits (spanDigits cs).2 := by
  have hhead := List.head?_dropWhile_not Char.isDigit cs
  rw [spanDigits, List.span_eq_takeWhile_dropWhile]
  cases hrest : cs.dropWhile Char.isDigit with
  | nil => trivial
  | cons c rest =>
    rw [hrest] at hhead
    exact hhead

/-- The digits of a number, with zeros before them up to a width. -/
def padDigits (width n : Nat) : List Char :=
  List.replicate (width - (Nat.toDigits 10 n).length) '0' ++ Nat.toDigits 10 n

@[simp]
theorem toList_padNat (width n : Nat) : (Text.padNat width n).toList = padDigits width n :=
  String.toList_ofList

theorem isDigit_of_mem_padDigits {width n : Nat} : ∀ c ∈ padDigits width n, c.isDigit := by
  intro c hc
  rcases List.mem_append.mp hc with hc | hc
  · rw [List.eq_of_mem_replicate hc]
    rfl
  · exact Nat.isDigit_of_mem_toDigits (by decide) (by decide) hc

theorem padDigits_ne_nil (width n : Nat) : padDigits width n ≠ [] :=
  List.append_ne_nil_of_right_ne_nil _ Nat.toDigits_ne_nil

theorem length_padDigits {width n : Nat} (hwidth : 0 < width) (h : n < Nat.pow 10 width) :
    (padDigits width n).length = width := by
  have hle := (Nat.length_toDigits_le_iff (by decide) hwidth).mpr h
  rw [padDigits, List.length_append, List.length_replicate]
  omega

@[simp]
theorem digitsValue_padDigits (width n : Nat) : digitsValue (padDigits width n) = n := by
  rw [padDigits]
  change Nat.ofDigitChars 10 _ 0 = n
  rw [Nat.ofDigitChars_append, Nat.ofDigitChars_replicate_zero, Nat.mul_zero,
    Nat.ofDigitChars_ten_toDigits]

theorem isDigit_of_mem_spanDigits (cs : List Char) : ∀ c ∈ (spanDigits cs).1, c.isDigit := by
  intro c hc
  rw [spanDigits, List.span_eq_takeWhile_dropWhile] at hc
  exact List.mem_takeWhile_imp hc

theorem digit_lt_ten {c : Char} (h : c.isDigit) : c.toNat - '0'.toNat < 10 := by
  simp only [Char.isDigit, Bool.and_eq_true, decide_eq_true_eq, UInt32.le_iff_toNat_le] at h
  have hle : c.toNat ≤ 57 := h.2
  have hzero : '0'.toNat = 48 := rfl
  omega

theorem digitsValue_lt {ds : List Char} (h : ∀ c ∈ ds, c.isDigit) :
    digitsValue ds < Nat.pow 10 ds.length := by
  change Nat.ofDigitChars 10 ds 0 < 10 ^ ds.length
  induction ds with
  | nil => exact Nat.zero_lt_one
  | cons c ds ih =>
    have hc := digit_lt_ten (h c List.mem_cons_self)
    have hds := ih fun d hd => h d (List.mem_cons_of_mem c hd)
    rw [Nat.ofDigitChars_cons, Nat.ofDigitChars_eq_ofDigitChars_zero, List.length_cons,
      Nat.pow_succ]
    generalize c.toNat - '0'.toNat = d at *
    have hle : 10 ^ ds.length * (10 * 0 + d) ≤ 10 ^ ds.length * 9 :=
      Nat.mul_le_mul_left _ (by omega)
    omega

/-! ## Numbers without an exponent -/

theorem isDigit_of_mem_zeros {count : Nat} : ∀ c ∈ Decimal.zeros count, c.isDigit := by
  intro c hc
  rw [List.eq_of_mem_replicate hc]
  rfl

/-- A number without an exponent has nothing but digits and a point. -/
theorem mem_positional {d : Decimal.Scientific} :
    ∀ c ∈ (Decimal.positional "" d).toList, c.isDigit ∨ c = '.' := by
  have hdigits : ∀ c ∈ Nat.toDigits 10 d.digits, c.isDigit := fun c hc =>
    Nat.isDigit_of_mem_toDigits (by decide) (by decide) hc
  intro c hc
  unfold Decimal.positional at hc
  dsimp only at hc
  split at hc
  · rw [String.append_empty, String.toList_ofList] at hc
    rcases List.mem_append.mp hc with hc | hc
    · exact .inl (hdigits c hc)
    · exact .inl (isDigit_of_mem_zeros c hc)
  split at hc <;> rw [String.toList_ofList] at hc
  · rcases List.mem_append.mp hc with hc | hc
    · exact .inl (hdigits c (List.mem_of_mem_take hc))
    rcases List.mem_cons.mp hc with rfl | hc
    · exact .inr rfl
    · exact .inl (hdigits c (List.mem_of_mem_drop hc))
  · rcases List.mem_append.mp hc with hc | hc
    · rcases List.mem_cons.mp hc with rfl | hc
      · exact .inl rfl
      rcases List.mem_cons.mp hc with rfl | hc
      · exact .inr rfl
      · exact .inl (isDigit_of_mem_zeros c hc)
    · exact .inl (hdigits c hc)

end ExperimentQuery
