import ExperimentQuery.Decimal.Layout

/-!
# Whole numbers written out

The rounding interval of a double that is a small whole number holds no other whole number. So the
shortest decimal of the double is the number itself, whichever way a tie goes, and its layout is the
run of its digits.

* `Scientific.Denotes`: a decimal that stands for a whole number;
* `Denotes.positional_eq`, `Denotes.order_eq`: it is written as the digits of the number;
* `Interval.Isolates`: an interval too narrow for a second whole number;
* `Isolates.search_denotes`: the search finds a decimal for the only one;
* **`shortest_whole`**: how a small whole double is written.
-/

namespace ExperimentQuery.Decimal

/-! ## Decimals of whole numbers -/

/-- A decimal without a fraction, for a whole number. -/
structure Scientific.Denotes (d : Scientific) (n : Nat) : Prop where
  exponent : 0 ≤ d.exponent
  value : d.digits * Nat.pow 10 d.exponent.toNat = n

theorem toDigits_mul_ten {n : Nat} (hn : 0 < n) :
    Nat.toDigits 10 (n * 10) = Nat.toDigits 10 n ++ ['0'] := by
  have happend : Nat.toDigits 10 n ++ Nat.toDigits 10 0 = Nat.toDigits 10 (10 * n + 0) :=
    Nat.toDigits_append_toDigits (by decide) hn (by decide)
  rw [Nat.mul_comm, ← Nat.add_zero (10 * n), ← happend]
  rfl

theorem toDigits_mul_pow {n : Nat} (hn : 0 < n) (e : Nat) :
    Nat.toDigits 10 (n * Nat.pow 10 e) = Nat.toDigits 10 n ++ zeros e := by
  induction e with
  | zero =>
    change Nat.toDigits 10 (n * 1) = Nat.toDigits 10 n ++ []
    rw [Nat.mul_one, List.append_nil]
  | succ e ih =>
    have hpos : 0 < n * Nat.pow 10 e := Nat.mul_pos hn (Nat.pow_pos (by decide))
    have hstep : n * Nat.pow 10 (e + 1) = n * Nat.pow 10 e * 10 := (Nat.mul_assoc _ _ _).symm
    rw [hstep, toDigits_mul_ten hpos, ih, List.append_assoc]
    exact congrArg (Nat.toDigits 10 n ++ ·) List.replicate_succ'.symm

namespace Scientific.Denotes

variable {d : Scientific} {n : Nat}

theorem toDigits (h : d.Denotes n) (hn : 0 < n) :
    Nat.toDigits 10 n = Nat.toDigits 10 d.digits ++ zeros d.exponent.toNat := by
  have hdigits : 0 < d.digits := Nat.pos_of_mul_pos_right (h.value ▸ hn)
  rw [← h.value]
  exact toDigits_mul_pow hdigits _

theorem positional_eq (h : d.Denotes n) (hn : 0 < n) : positional "" d = digitText n := by
  rw [positional, if_pos h.exponent, digitText, h.toDigits hn, String.append_empty]

theorem order_eq (h : d.Denotes n) (hn : 0 < n) :
    d.order = (Nat.toDigits 10 n).length - 1 := by
  have hexponent := h.exponent
  rw [order, h.toDigits hn, List.length_append, zeros, List.length_replicate]
  omega

theorem strip (h : d.Denotes n) (fuel : Nat) : (Scientific.strip fuel d).Denotes n := by
  induction fuel generalizing d with
  | zero => exact h
  | succ fuel ih =>
    rw [Scientific.strip]
    split
    · next hd =>
      have hexponent := h.exponent
      refine ih ⟨Int.le_add_one hexponent, ?_⟩
      have hnat : (d.exponent + 1).toNat = d.exponent.toNat + 1 := by omega
      have hten : d.digits / 10 * 10 = d.digits := Nat.div_mul_cancel (Nat.dvd_of_mod_eq_zero hd.2)
      change d.digits / 10 * Nat.pow 10 (d.exponent + 1).toNat = n
      rw [hnat]
      change d.digits / 10 * (Nat.pow 10 d.exponent.toNat * 10) = n
      rw [Nat.mul_comm (Nat.pow 10 d.exponent.toNat), ← Nat.mul_assoc, hten, h.value]
    · exact h

end Scientific.Denotes

/-! ## Narrow intervals -/

/-- An interval around a whole number that is too narrow for another one. -/
structure Interval.Isolates (i : Interval) (n : Nat) : Prop where
  value : i.value = n * i.scale
  low : i.low < i.value ∧ i.value ≤ i.low + 2
  high : i.high = i.value + 2
  scale : 2 < i.scale

namespace Interval.Isolates

variable {i : Interval} {n : Nat} {tie : Tie}

theorem eq_of_near (h : i.Isolates n) {p : Nat} (hlow : i.low ≤ p * i.scale)
    (hhigh : p * i.scale ≤ i.high) : p = n := by
  have hvalue := h.value
  have hbounds := h.low
  have hupper := h.high
  have hscale := h.scale
  rcases Nat.lt_trichotomy p n with hlt | heq | hgt
  · have hmul := Nat.mul_le_mul_right i.scale hlt
    rw [Nat.succ_mul] at hmul
    omega
  · exact heq
  · have hmul := Nat.mul_le_mul_right i.scale hgt
    rw [Nat.succ_mul] at hmul
    omega

theorem contains_iff (h : i.Isolates n) {d : Nat} (e : Nat) :
    i.contains ⟨d, e⟩ ↔ d * Nat.pow 10 e = n := by
  have hzero : (-(e : Int)).toNat = 0 := by omega
  have hunit : Nat.pow 10 (-(e : Int)).toNat = 1 := congrArg (Nat.pow 10) hzero
  have hbounds := h.low
  have hupper := h.high
  rw [contains, hunit, Nat.mul_one, Nat.mul_one, Int.toNat_natCast]
  constructor
  · intro hin
    split at hin
    · simp only [Bool.and_eq_true, decide_eq_true_eq] at hin
      exact h.eq_of_near hin.1 hin.2
    · simp only [Bool.and_eq_true, decide_eq_true_eq] at hin
      exact h.eq_of_near (Nat.le_of_lt hin.1) (Nat.le_of_lt hin.2)
  · intro heq
    rw [heq, ← h.value]
    split <;> simp only [Bool.and_eq_true, decide_eq_true_eq] <;> omega

theorem floor_eq (h : i.Isolates n) (e : Nat) : i.floor e = n / Nat.pow 10 e := by
  have hzero : (-(e : Int)).toNat = 0 := by omega
  have hscale := h.scale
  rw [floor, hzero, h.value, Int.toNat_natCast, Nat.mul_comm n]
  change i.scale * n * 1 / _ = _
  rw [Nat.mul_one, Nat.mul_div_mul_left _ _ (by omega)]

/-- A grid of whole spacing has a point in the interval only if the number is on it. -/
theorem onGrid_eq (h : i.Isolates n) (e : Nat) :
    i.onGrid tie e =
      if n / Nat.pow 10 e * Nat.pow 10 e = n then some (n / Nat.pow 10 e) else none := by
  have hpow : 0 < Nat.pow 10 e := Nat.pow_pos (by decide)
  have hupper : i.contains ⟨n / Nat.pow 10 e + 1, e⟩ = false := by
    rw [← Bool.not_eq_true, h.contains_iff, Nat.succ_mul]
    exact Nat.ne_of_gt (Nat.lt_div_mul_add hpow)
  have hlower := h.contains_iff (d := n / Nat.pow 10 e) e
  rw [onGrid, h.floor_eq]
  by_cases hpoint : n / Nat.pow 10 e * Nat.pow 10 e = n
  · rw [if_pos hpoint]
    simp only [hlower.mpr hpoint, hupper]
  · rw [if_neg hpoint]
    simp only [Bool.eq_false_iff.mpr (mt hlower.mp hpoint), hupper]

/-- From a whole spacing on down, the search comes to a decimal of the number. -/
theorem search_denotes (h : i.Isolates n) (hn : 0 < n) {fuel e : Nat} (he : e < fuel) :
    (i.search tie fuel e).Denotes n := by
  induction fuel generalizing e with
  | zero => exact absurd he (Nat.not_lt_zero e)
  | succ fuel ih =>
    rw [search, h.onGrid_eq]
    by_cases hpoint : n / Nat.pow 10 e * Nat.pow 10 e = n
    · rw [if_pos hpoint]
      have hdigits : n / Nat.pow 10 e ≠ 0 := by
        intro hzero
        rw [hzero, Nat.zero_mul] at hpoint
        omega
      simp only [if_neg hdigits]
      exact ⟨Int.natCast_nonneg e, hpoint⟩
    · -- a spacing of one always has the number, so a smaller whole spacing is left
      rw [if_neg hpoint]
      cases e with
      | zero => exact absurd ((Nat.mul_one _).trans (Nat.div_one n)) hpoint
      | succ e =>
        have hprev : ((e + 1 : Nat) : Int) - 1 = e := by omega
        simp only [hprev]
        exact ih (by omega)

end Interval.Isolates

/-! ## Whole doubles -/

theorem Magnitude.ofBits_bounds (bits : UInt64) :
    (Magnitude.ofBits bits).mantissa < Nat.pow 2 52 ∧
        (Magnitude.ofBits bits).exponent = leastExponent ∨
      Nat.pow 2 52 ≤ (Magnitude.ofBits bits).mantissa := by
  rw [ofBits]
  split
  · exact .inl ⟨Nat.mod_lt _ (Nat.pow_pos (by decide)), rfl⟩
  · exact .inr (Nat.le_add_right _ _)

/-- A magnitude that is a whole number below a bound and has binary places to spare. -/
structure Magnitude.IsSmallWhole (x : Magnitude) (n places : Nat) : Prop where
  exponent : x.exponent = -places
  mantissa : x.mantissa = n * Nat.pow 2 places
  spare : 3 ≤ places
  bound : n < Nat.pow 10 15

/-- A double below the bound has its last bit three places behind the point at least. -/
theorem Magnitude.exponent_le_of_isWholeBelow {bits : UInt64}
    (hlt : (Magnitude.ofBits bits).mantissa * Nat.pow 2 (Magnitude.ofBits bits).exponent.toNat <
      Nat.pow 10 15 * Nat.pow 2 (-(Magnitude.ofBits bits).exponent).toNat) :
    (Magnitude.ofBits bits).exponent ≤ -3 := by
  have hbounds := Magnitude.ofBits_bounds bits
  generalize Magnitude.ofBits bits = x at *
  rcases hbounds with ⟨-, hleast⟩ | hnormal
  · rw [hleast]
    decide
  · refine Int.not_lt.mp fun hgt => ?_
    have hunit : Nat.pow 2 (-x.exponent).toNat ≤ Nat.pow 2 2 :=
      Nat.pow_le_pow_right (by decide) (by omega)
    have hmul := Nat.mul_le_mul_left (Nat.pow 10 15) hunit
    have hscaled : x.mantissa ≤ x.mantissa * Nat.pow 2 x.exponent.toNat :=
      Nat.le_mul_of_pos_right _ (Nat.pow_pos (by decide))
    have hgap : Nat.pow 10 15 * Nat.pow 2 2 < Nat.pow 2 52 := by decide
    omega

theorem Magnitude.isSmallWhole_of_isWholeBelow {bits : UInt64}
    (h : (Magnitude.ofBits bits).isWholeBelow (Nat.pow 10 15)) :
    ∃ n places, (Magnitude.ofBits bits).IsSmallWhole n places := by
  simp only [isWholeBelow, Bool.and_eq_true, decide_eq_true_eq] at h
  obtain ⟨hwhole, hlt⟩ := h
  have hexponent := exponent_le_of_isWholeBelow hlt
  generalize Magnitude.ofBits bits = x at *
  have hpow : Nat.pow 2 x.exponent.toNat = 1 :=
    congrArg (Nat.pow 2) (Int.toNat_of_nonpos (by omega))
  have hmantissa := Nat.div_mul_cancel (Nat.dvd_of_mod_eq_zero hwhole)
  rw [hpow, Nat.mul_one, ← hmantissa] at hlt
  exact ⟨_, _, by omega, hmantissa.symm, by omega, Nat.lt_of_mul_lt_mul_right hlt⟩

theorem log2_mul_pow {n : Nat} (hn : 0 < n) (k : Nat) :
    (n * Nat.pow 2 k).log2 = n.log2 + k := by
  have hpow : 0 < Nat.pow 2 k := Nat.pow_pos (by decide)
  obtain ⟨hle, hlt⟩ := (Nat.log2_eq_iff (Nat.ne_of_gt hn)).mp rfl
  refine (Nat.log2_eq_iff (Nat.ne_of_gt (Nat.mul_pos hn hpow))).mpr ⟨?_, ?_⟩
  · rw [Nat.pow_add]
    exact Nat.mul_le_mul_right _ hle
  · rw [Nat.add_right_comm, Nat.pow_add]
    exact Nat.mul_lt_mul_of_pos_right hlt hpow

namespace Magnitude.IsSmallWhole

variable {x : Magnitude} {n places : Nat}

theorem up_eq (h : x.IsSmallWhole n places) : Nat.pow 2 (x.exponent - 2).toNat = 1 := by
  have hexponent := h.exponent
  exact congrArg (Nat.pow 2) (Int.toNat_of_nonpos (by omega))

theorem scale_eq (h : x.IsSmallWhole n places) :
    (Interval.ofMagnitude x).scale = Nat.pow 2 (places + 2) := by
  have hexponent : (-(x.exponent - 2)).toNat = places + 2 := by
    rw [h.exponent]
    omega
  exact congrArg (Nat.pow 2) hexponent

theorem value_eq (h : x.IsSmallWhole n places) :
    (Interval.ofMagnitude x).value = n * Nat.pow 2 (places + 2) := by
  have hplaces : Nat.pow 2 (places + 2) = Nat.pow 2 places * 4 := Nat.pow_add 2 places 2
  simp only [Interval.ofMagnitude, h.up_eq, Nat.mul_one]
  rw [h.mantissa, hplaces, Nat.mul_comm 4, Nat.mul_assoc]

theorem isolates (h : x.IsSmallWhole n places) (hn : 0 < n) :
    (Interval.ofMagnitude x).Isolates n := by
  have hlarge : 32 ≤ Nat.pow 2 (places + 2) :=
    Nat.pow_le_pow_right (Nat.zero_lt_succ 1) (Nat.add_le_add_right h.spare 2)
  have hpos : 0 < x.mantissa := by
    rw [h.mantissa]
    exact Nat.mul_pos hn (Nat.pow_pos (by decide))
  refine ⟨by rw [h.value_eq, h.scale_eq], ?_, ?_, by rw [h.scale_eq]; omega⟩
  · simp only [Interval.ofMagnitude, h.up_eq, Nat.mul_one]
    split <;> omega
  · simp only [Interval.ofMagnitude, h.up_eq, Nat.mul_one]

theorem order_bounds (h : x.IsSmallWhole n places) (hn : 0 < n) :
    ∃ e : Nat, e < 22 ∧ (Interval.ofMagnitude x).order + 3 = e := by
  have hbits : n.log2 < 50 :=
    (Nat.log2_lt (Nat.ne_of_gt hn)).mpr (Nat.lt_trans h.bound (by decide))
  have hscale : (Nat.pow 2 (places + 2)).log2 = places + 2 := Nat.log2_two_pow
  rw [Interval.order, h.value_eq, h.scale_eq, hscale, log2_mul_pow hn,
    Int.fdiv_eq_ediv_of_nonneg _ (by decide)]
  refine ⟨_, ?_, (Int.toNat_of_nonneg ?_).symm⟩ <;> omega

/-- The shortest decimal is the number, whichever way a tie goes. -/
theorem shortest_denotes (h : x.IsSmallWhole n places) (tie : Tie) (hn : 0 < n) :
    (((Interval.ofMagnitude x).search tie 22 ((Interval.ofMagnitude x).order + 3)).strip
      400).Denotes n := by
  obtain ⟨e, he, horder⟩ := h.order_bounds hn
  rw [horder]
  exact ((h.isolates hn).search_denotes hn he).strip 400

end Magnitude.IsSmallWhole

/-- **A small whole double is written as its digits, whichever way a tie goes.** Its order is below
the fifteen digits of the bound. -/
theorem shortest_whole {bits : UInt64}
    (h : (Magnitude.ofBits bits).isWholeBelow (Nat.pow 10 15)) :
    ∃ n, ∀ tie, positional "" (shortest tie bits) = digitText n ∧
      0 ≤ (shortest tie bits).order ∧ (shortest tie bits).order < 15 := by
  obtain ⟨n, places, hwhole⟩ := Magnitude.isSmallWhole_of_isWholeBelow h
  refine ⟨n, fun tie => ?_⟩
  rw [shortest]
  by_cases hzero : (Magnitude.ofBits bits).mantissa = 0
  · have hn : n = 0 := by
      have hmul := hwhole.mantissa
      rw [hzero] at hmul
      exact (Nat.mul_eq_zero.mp hmul.symm).resolve_right (Nat.ne_of_gt (Nat.pow_pos (by decide)))
    rw [if_pos hzero, hn]
    decide
  · have hn : 0 < n := by
      refine Nat.pos_of_ne_zero fun hn => hzero ?_
      rw [hwhole.mantissa, hn, Nat.zero_mul]
    have hdenotes := hwhole.shortest_denotes tie hn
    have hnonempty : 0 < (Nat.toDigits 10 n).length := List.length_pos_iff.mpr Nat.toDigits_ne_nil
    have hlength : (Nat.toDigits 10 n).length ≤ 15 :=
      (Nat.length_toDigits_le_iff (by decide) (by decide)).mpr hwhole.bound
    rw [if_neg hzero]
    refine ⟨hdenotes.positional_eq hn, ?_⟩
    simp only [hdenotes.order_eq hn]
    omega

end ExperimentQuery.Decimal
