import ExperimentQuery.Proofs.Decimal.Digits

/-!
# Decimal literals

A script's decimal literal is cut at its marks: what stands before the mark of an exponent is digits
with one point among them at most, and what stands after it a whole number with a sign. The
interpreter takes a numeral from left to right, one run of digits after the other. Both read the
same numbers.

* `decimalLiteral?`: a literal cut at its marks;
* `numeral?_append`, `numeral?_point`: a numeral by its runs of digits;
* `exponent?_cases`: what follows the digits is an exponent for both sides or for neither;
* **`decimalLiteral?_eq_numeral?`**: both sides read a number without a sign alike.
-/

namespace ExperimentQuery.Script

open Decimal (Numeral numeral? exponent? spanDigits digitsValue)

/-- The sign of a word, and the rest. -/
def splitSign : List Char → Bool × List Char
  | '-' :: cs => (true, cs)
  | '+' :: cs => (false, cs)
  | cs => (false, cs)

/-- Whether a character does not open an exponent. -/
def inMantissa (c : Char) : Bool := c != 'e' && c != 'E'

/-- The exponent after its mark, if there is one. -/
def exponentPart? : List Char → Option Int
  | [] => some 0
  | _ :: cs =>
    let (negative, ds) := splitSign cs
    if ds ≠ [] ∧ ds.all Char.isDigit then
      some (if negative then -(digitsValue ds : Int) else digitsValue ds)
    else none

/-- What stands before and after the first point. -/
def splitPoint (cs : List Char) : List Char × List Char :=
  (cs.takeWhile (· != '.'), (cs.dropWhile (· != '.')).drop 1)

/-- A decimal literal without its sign. -/
def decimalLiteral? (cs : List Char) : Option Numeral :=
  let (whole, places) := splitPoint (cs.takeWhile inMantissa)
  if whole ++ places ≠ [] ∧ (whole ++ places).all Char.isDigit then
    (exponentPart? (cs.dropWhile inMantissa)).map fun e =>
      ⟨digitsValue (whole ++ places), e - places.length⟩
  else none

/-! ## Numerals -/

theorem numeral?_append {whole rest : List Char} (hwhole : ∀ c ∈ whole, c.isDigit)
    (hrest : EndsDigits rest) (hpoint : rest.head? ≠ some '.') :
    numeral? (whole ++ rest) =
      if whole = [] then none else (exponent? rest).map fun e => ⟨digitsValue whole, e⟩ := by
  unfold numeral?
  rw [spanDigits_append hwhole hrest]
  dsimp only
  split
  · exact absurd rfl hpoint
  · simp

theorem numeral?_point {whole places rest : List Char} (hwhole : ∀ c ∈ whole, c.isDigit)
    (hplaces : ∀ c ∈ places, c.isDigit) (hrest : EndsDigits rest) :
    numeral? (whole ++ '.' :: (places ++ rest)) =
      if whole = [] ∧ places = [] then none
      else (exponent? rest).map fun e => ⟨digitsValue (whole ++ places), e - places.length⟩ := by
  have hspan : spanDigits (whole ++ '.' :: (places ++ rest)) = (whole, '.' :: (places ++ rest)) :=
    spanDigits_append hwhole (by rfl : EndsDigits ('.' :: (places ++ rest)))
  unfold numeral?
  rw [hspan]
  change (if whole = [] ∧ (spanDigits (places ++ rest)).1 = [] then none
    else (exponent? (spanDigits (places ++ rest)).2).map fun e =>
      (⟨digitsValue (whole ++ (spanDigits (places ++ rest)).1),
        e - (spanDigits (places ++ rest)).1.length⟩ : Numeral)) = _
  rw [spanDigits_append hplaces hrest]

/-! ## Marks -/

theorem ne_of_isDigit {c d : Char} (h : c.isDigit) (hd : d.isDigit = false) : c ≠ d := by
  rintro rfl
  rw [h] at hd
  cases hd

theorem inMantissa_of_isDigit {c : Char} (h : c.isDigit) : inMantissa c := by
  rw [inMantissa, Bool.and_eq_true, bne_iff_ne, bne_iff_ne]
  exact ⟨ne_of_isDigit h rfl, ne_of_isDigit h rfl⟩

theorem splitPoint_append {whole rest : List Char} (hwhole : ∀ c ∈ whole, c.isDigit) :
    splitPoint (whole ++ rest) = (whole ++ (splitPoint rest).1, (splitPoint rest).2) := by
  have hne : ∀ c ∈ whole, (c != '.') = true := fun c hc =>
    bne_iff_ne.mpr (ne_of_isDigit (hwhole c hc) rfl)
  rw [splitPoint, splitPoint, List.takeWhile_append_of_pos hne, List.dropWhile_append_of_pos hne]

/-- What follows the digits of a number is an exponent for both sides, or a character that is no
digit stands before the mark. -/
theorem exponent?_cases {rest : List Char} (hrest : EndsDigits rest) :
    (rest.takeWhile inMantissa = [] ∧ exponent? rest = exponentPart? (rest.dropWhile inMantissa)) ∨
      ∃ c after, rest.takeWhile inMantissa = c :: after ∧ rest.head? = some c ∧
        c.isDigit = false ∧ exponent? rest = none := by
  cases rest with
  | nil => exact .inl ⟨rfl, rfl⟩
  | cons c rest =>
    by_cases hmark : c = 'e' ∨ c = 'E'
    · have hmantissa : inMantissa c = false := by rcases hmark with rfl | rfl <;> rfl
      rw [List.takeWhile_cons, List.dropWhile_cons, hmantissa]
      exact .inl ⟨rfl, if_pos hmark⟩
    · have hmantissa : inMantissa c = true := by
        rw [not_or] at hmark
        rw [inMantissa, Bool.and_eq_true, bne_iff_ne, bne_iff_ne]
        exact hmark
      rw [List.takeWhile_cons, hmantissa]
      exact .inr ⟨c, _, rfl, rfl, hrest, if_neg hmark⟩

/-! ## Literals -/

variable {cs whole places : List Char}

theorem decimalLiteral?_of_digits (hsplit : splitPoint (cs.takeWhile inMantissa) = (whole, places))
    (hwhole : ∀ c ∈ whole, c.isDigit) (hplaces : ∀ c ∈ places, c.isDigit) :
    decimalLiteral? cs =
      if whole = [] ∧ places = [] then none
      else (exponentPart? (cs.dropWhile inMantissa)).map fun e =>
        ⟨digitsValue (whole ++ places), e - places.length⟩ := by
  have hall : (whole ++ places).all Char.isDigit := by
    rw [List.all_append, List.all_eq_true.mpr hwhole, List.all_eq_true.mpr hplaces]
    rfl
  rw [decimalLiteral?, hsplit]
  dsimp only
  by_cases hempty : whole = [] ∧ places = []
  · rw [if_pos hempty, if_neg]
    exact fun h => h.1 (List.append_eq_nil_iff.mpr hempty)
  · rw [if_neg hempty, if_pos ⟨mt List.append_eq_nil_iff.mp hempty, hall⟩]

theorem decimalLiteral?_of_stray {c : Char}
    (hsplit : splitPoint (cs.takeWhile inMantissa) = (whole, places)) (hmem : c ∈ whole ++ places)
    (hc : c.isDigit = false) : decimalLiteral? cs = none := by
  rw [decimalLiteral?, hsplit]
  refine if_neg fun h => ?_
  rw [List.all_eq_true.mp h.2 c hmem] at hc
  cases hc

theorem decimalLiteral?_append {rest : List Char} (hwhole : ∀ c ∈ whole, c.isDigit)
    (hrest : EndsDigits rest) (hpoint : rest.head? ≠ some '.') :
    decimalLiteral? (whole ++ rest) = numeral? (whole ++ rest) := by
  have hmantissa : ∀ c ∈ whole, inMantissa c := fun c hc => inMantissa_of_isDigit (hwhole c hc)
  have htake : (whole ++ rest).takeWhile inMantissa = whole ++ rest.takeWhile inMantissa :=
    List.takeWhile_append_of_pos hmantissa
  have hdrop : (whole ++ rest).dropWhile inMantissa = rest.dropWhile inMantissa :=
    List.dropWhile_append_of_pos hmantissa
  rw [numeral?_append hwhole hrest hpoint]
  rcases exponent?_cases hrest with ⟨hnone, hexponent⟩ | ⟨c, after, hstray, hhead, hc, hexponent⟩
  · have hsplit : splitPoint ((whole ++ rest).takeWhile inMantissa) = (whole, []) := by
      rw [htake, hnone, splitPoint_append hwhole]
      simp [splitPoint]
    rw [decimalLiteral?_of_digits hsplit hwhole (fun _ h => nomatch h), hdrop, hexponent]
    simp
  · have hne : c ≠ '.' := fun h => hpoint (h ▸ hhead)
    have hsplit : splitPoint ((whole ++ rest).takeWhile inMantissa) =
        (whole ++ (splitPoint (c :: after)).1, (splitPoint (c :: after)).2) := by
      rw [htake, hstray, splitPoint_append hwhole]
    have hmem : c ∈ whole ++ (splitPoint (c :: after)).1 ++ (splitPoint (c :: after)).2 := by
      simp [splitPoint, hne]
    rw [decimalLiteral?_of_stray hsplit hmem hc, hexponent, Option.map_none, ite_self]

theorem decimalLiteral?_point {rest : List Char} (hwhole : ∀ c ∈ whole, c.isDigit)
    (hplaces : ∀ c ∈ places, c.isDigit) (hrest : EndsDigits rest) :
    decimalLiteral? (whole ++ '.' :: (places ++ rest)) =
      numeral? (whole ++ '.' :: (places ++ rest)) := by
  have hmantissa : ∀ c ∈ whole ++ '.' :: places, inMantissa c := by
    intro c hc
    rcases List.mem_append.mp hc with hc | hc
    · exact inMantissa_of_isDigit (hwhole c hc)
    rcases List.mem_cons.mp hc with rfl | hc
    · rfl
    · exact inMantissa_of_isDigit (hplaces c hc)
  have hcs : whole ++ '.' :: (places ++ rest) = (whole ++ '.' :: places) ++ rest := by simp
  have hsplit : splitPoint ((whole ++ '.' :: (places ++ rest)).takeWhile inMantissa) =
      (whole, places ++ rest.takeWhile inMantissa) := by
    have hpoint (after : List Char) : splitPoint ('.' :: after) = ([], after) := by rfl
    rw [hcs, List.takeWhile_append_of_pos hmantissa, List.append_assoc, List.cons_append,
      splitPoint_append hwhole, hpoint, List.append_nil]
  have hdrop : (whole ++ '.' :: (places ++ rest)).dropWhile inMantissa =
      rest.dropWhile inMantissa := by
    rw [hcs, List.dropWhile_append_of_pos hmantissa]
  rw [numeral?_point hwhole hplaces hrest]
  rcases exponent?_cases hrest with ⟨hnone, hexponent⟩ | ⟨c, after, hstray, -, hc, hexponent⟩
  · rw [hnone, List.append_nil] at hsplit
    rw [decimalLiteral?_of_digits hsplit hwhole hplaces, hdrop, hexponent]
  · have hmem : c ∈ whole ++ (places ++ rest.takeWhile inMantissa) := by
      simp [hstray]
    rw [decimalLiteral?_of_stray hsplit hmem hc, hexponent, Option.map_none, ite_self]

/-- **Both sides read a number without a sign alike.** -/
theorem decimalLiteral?_eq_numeral? (cs : List Char) : decimalLiteral? cs = numeral? cs := by
  have hends := endsDigits_spanDigits cs
  have hdigits := isDigit_of_mem_spanDigits cs
  rw [← append_spanDigits cs]
  generalize (spanDigits cs).1 = whole at *
  generalize (spanDigits cs).2 = rest at *
  by_cases hpoint : rest.head? = some '.'
  · obtain ⟨after, rfl⟩ := List.head?_eq_some_iff.mp hpoint
    rw [← append_spanDigits after]
    exact decimalLiteral?_point hdigits (isDigit_of_mem_spanDigits after)
      (endsDigits_spanDigits after)
  · exact decimalLiteral?_append hdigits hends hpoint

end ExperimentQuery.Script
