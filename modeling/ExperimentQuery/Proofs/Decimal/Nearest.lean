import ExperimentQuery.Proofs.Decimal.Value

/-!
# The nearest double

A decimal is read as the double nearest to it. Its exponent is chosen so that the mantissa has 53
bits where that is possible, and the mantissa is rounded to a whole number. All doubles that are not
closer to zero than the number allows lie on the grid of that exponent, so that the nearest grid
point is the nearest double.

* `RoundsTo`: a whole number nearest to a rational one, the even one of two;
* `roundsTo_roundDiv`, `roundsTo_roundScaled`: what rounding a quotient gives;
* `FitsExponent`, `fitsExponent_fittingExponent`: the exponent of the nearest double;
* `NearestTo`: a double nearest to a number;
* `nearestTo_nearestBits`: the double nearest to a fraction;
* **`nearestTo_decimalFloat`**: the double nearest to a decimal.
-/

namespace ExperimentQuery.Decimal

/-! ## Rounding to whole numbers -/

/-- A whole number nearest to a rational one, the even one of two. -/
structure RoundsTo (q : ℚ) (m : ℕ) : Prop where
  near : |q - m| ≤ 1 / 2
  even : |q - m| = 1 / 2 → Even m

namespace RoundsTo

variable {n : ℕ} {f : ℚ}

theorem of_lt_half (h0 : 0 ≤ f) (hlt : f < 1 / 2) : RoundsTo (n + f) n := by
  rw [← abs_of_nonneg h0] at hlt
  refine ⟨?_, fun h => ?_⟩
  · rw [add_sub_cancel_left]
    exact hlt.le
  · rw [add_sub_cancel_left] at h
    exact absurd h hlt.ne

theorem of_half_lt (hlt : 1 / 2 < f) (h1 : f < 1) : RoundsTo (n + f) (n + 1 : ℕ) := by
  have hdist : |(n + f : ℚ) - (n + 1 : ℕ)| = 1 - f := by
    rw [Nat.cast_succ, add_sub_add_left_eq_sub, abs_sub_comm, abs_of_pos (sub_pos.mpr h1)]
  refine ⟨?_, fun h => ?_⟩ <;> rw [hdist] at *
  · linarith
  · linarith

theorem of_half : RoundsTo (n + 1 / 2) (if n % 2 = 0 then n else n + 1 : ℕ) := by
  split_ifs with heven
  · refine ⟨?_, fun _ => Nat.even_iff.mpr heven⟩
    rw [add_sub_cancel_left, abs_of_pos one_half_pos]
  · refine ⟨?_, fun _ => ?_⟩
    · rw [Nat.cast_succ, add_sub_add_left_eq_sub]
      norm_num
    · rw [Nat.even_iff]
      omega

/-- Every whole number is at least as far away, and strictly so unless the nearest is even. -/
theorem near_int {q : ℚ} {m : ℕ} (h : RoundsTo q m) (k : ℤ) :
    |q - m| ≤ |q - k| ∧ (|q - m| = |q - k| → (m : ℤ) = k ∨ Even m) := by
  by_cases hk : (m : ℤ) = k
  · subst hk
    exact ⟨by simp, fun _ => .inl rfl⟩
  · have hone : (1 : ℚ) ≤ |(m : ℚ) - k| := by
      have hint : 1 ≤ |(m : ℤ) - k| := Int.one_le_abs (sub_ne_zero.mpr hk)
      exact_mod_cast hint
    have htriangle : |(m : ℚ) - k| ≤ |q - m| + |q - k| := by
      rw [abs_sub_comm q m]
      exact abs_sub_le _ _ _
    have hnear := h.near
    refine ⟨by linarith, fun heq => .inr (h.even ?_)⟩
    linarith

end RoundsTo

theorem div_eq_add_mod (num : Nat) {den : Nat} (hden : 0 < den) :
    (num / den : ℚ) = (num / den : Nat) + (num % den : Nat) / (den : ℚ) := by
  have hne : (den : ℚ) ≠ 0 := Nat.cast_ne_zero.mpr (Nat.ne_of_gt hden)
  have hnum : (num : ℚ) = den * (num / den : Nat) + (num % den : Nat) := by
    exact_mod_cast (Nat.div_add_mod num den).symm
  rw [div_eq_iff hne, add_mul, div_mul_cancel₀ _ hne, mul_comm, ← hnum]

/-- **A quotient is rounded to the nearest whole number.** -/
theorem roundsTo_roundDiv (num : Nat) {den : Nat} (hden : 0 < den) :
    RoundsTo (num / den) (roundDiv num den) := by
  have hpos : (0 : ℚ) < den := Nat.cast_pos.mpr hden
  have hlt : ((num % den : Nat) : ℚ) / den < 1 := by
    rw [div_lt_one hpos]
    exact_mod_cast Nat.mod_lt num hden
  have hnonneg : (0 : ℚ) ≤ (num % den : Nat) / (den : ℚ) := by positivity
  rw [div_eq_add_mod num hden, roundDiv]
  rcases Nat.lt_trichotomy (2 * (num % den)) den with hless | hhalf | hmore
  · have hless' : (2 * (num % den : Nat) : ℚ) < den := by exact_mod_cast hless
    rw [if_pos hless]
    refine .of_lt_half hnonneg ?_
    rw [div_lt_iff₀ hpos]
    linarith
  · have hhalf' : (2 * (num % den : Nat) : ℚ) = den := by exact_mod_cast hhalf
    have hfraction : ((num % den : Nat) : ℚ) / den = 1 / 2 := by
      rw [div_eq_iff hpos.ne']
      linarith
    rw [if_neg (Nat.not_lt.mpr hhalf.ge), if_pos hhalf, hfraction]
    exact .of_half
  · have hmore' : (den : ℚ) < 2 * (num % den : Nat) := by exact_mod_cast hmore
    rw [if_neg (Nat.lt_asymm hmore), if_neg (Nat.ne_of_gt hmore)]
    refine .of_half_lt ?_ hlt
    rw [lt_div_iff₀ hpos]
    linarith

/-- **A quotient is rounded on a grid.** -/
theorem roundsTo_roundScaled (num : Nat) {den : Nat} (hden : 0 < den) (e : Int) :
    RoundsTo (num / den / 2 ^ e) (roundScaled num den e) := by
  rw [roundScaled]
  by_cases he : e ≥ 0
  · obtain ⟨k, rfl⟩ := Int.eq_ofNat_of_zero_le he
    rw [if_pos he, Int.toNat_natCast]
    have hround := roundsTo_roundDiv num (Nat.mul_pos hden (Nat.pow_pos (n := k) (Nat.zero_lt_two)))
    rw [Nat.cast_mul, Nat.cast_pow, Nat.cast_two, ← div_div] at hround
    exact_mod_cast hround
  · obtain ⟨k, hk⟩ := Int.eq_ofNat_of_zero_le (show 0 ≤ -e by omega)
    rw [if_neg he, hk, Int.toNat_natCast]
    have hround := roundsTo_roundDiv (num * Nat.pow 2 k) hden
    have hvalue : ((num * Nat.pow 2 k : Nat) : ℚ) / den = num / den / 2 ^ e := by
      rw [show e = -(k : ℤ) by omega, zpow_neg, zpow_natCast, div_inv_eq_mul, Nat.cast_mul]
      change (num : ℚ) * ((2 ^ k : ℕ) : ℚ) / den = _
      rw [Nat.cast_pow, Nat.cast_two, mul_div_right_comm]
    rwa [hvalue] at hround

/-! ## The exponent -/

/-- The exponent at which a number has a mantissa of 53 bits, or the least one. -/
structure FitsExponent (q : ℚ) (e : Int) : Prop where
  least_le : leastExponent ≤ e
  lt : q < 2 ^ (53 + e)
  full : e = leastExponent ∨ 2 ^ (52 + e) ≤ q

section

variable {num den : Nat}

theorem two_zpow_le_iff (num : Nat) (hden : 0 < den) (g : Int) :
    (if g ≥ 0 then decide (den * Nat.pow 2 g.toNat * Nat.pow 2 52 ≤ num)
      else decide (den * Nat.pow 2 52 ≤ num * Nat.pow 2 (-g).toNat)) ↔
      (2 : ℚ) ^ (52 + g) ≤ num / den := by
  have hpos : (0 : ℚ) < den := Nat.cast_pos.mpr hden
  rw [le_div_iff₀ hpos]
  split_ifs with hg
  · obtain ⟨k, rfl⟩ := Int.eq_ofNat_of_zero_le hg
    rw [Int.toNat_natCast, decide_eq_true_eq, ← Nat.cast_le (α := ℚ)]
    have hvalue : ((den * Nat.pow 2 k * Nat.pow 2 52 : Nat) : ℚ) = 2 ^ (52 + (k : ℤ)) * den := by
      rw [zpow_add₀ two_ne_zero, zpow_natCast]
      push_cast [Nat.pow_eq]
      ring
    rw [hvalue]
  · obtain ⟨k, hk⟩ := Int.eq_ofNat_of_zero_le (show 0 ≤ -g by omega)
    rw [hk, Int.toNat_natCast, decide_eq_true_eq, ← Nat.cast_le (α := ℚ)]
    have hscale : (0 : ℚ) < 2 ^ k := by positivity
    have hvalue : (2 : ℚ) ^ (52 + g) * den = (den * Nat.pow 2 52 : Nat) / 2 ^ k := by
      rw [show g = -(k : ℤ) by omega, zpow_add₀ two_ne_zero, zpow_neg, zpow_natCast]
      push_cast [Nat.pow_eq]
      field_simp
    rw [hvalue, div_le_iff₀ hscale]
    push_cast [Nat.pow_eq]
    rfl

theorem div_bounds_log2 (hnum : 0 < num) (hden : 0 < den) :
    (2 : ℚ) ^ ((num.log2 : ℤ) - den.log2 - 1) ≤ num / den ∧
      (num / den : ℚ) < 2 ^ ((num.log2 : ℤ) - den.log2 + 1) := by
  have hpos : (0 : ℚ) < den := Nat.cast_pos.mpr hden
  have hnumlow : (2 : ℚ) ^ num.log2 ≤ num := by
    exact_mod_cast Nat.log2_self_le (Nat.ne_of_gt hnum)
  have hnumhigh : (num : ℚ) < 2 ^ (num.log2 + 1) := by exact_mod_cast Nat.lt_log2_self
  have hdenlow : (2 : ℚ) ^ den.log2 ≤ den := by
    exact_mod_cast Nat.log2_self_le (Nat.ne_of_gt hden)
  have hdenhigh : (den : ℚ) < 2 ^ (den.log2 + 1) := by exact_mod_cast Nat.lt_log2_self
  have hsplit : ∀ a b : ℕ, (2 : ℚ) ^ ((a : ℤ) - b) * 2 ^ b = 2 ^ a := by
    intro a b
    rw [← zpow_natCast, ← zpow_add₀ two_ne_zero, sub_add_cancel, zpow_natCast]
  constructor
  · rw [le_div_iff₀ hpos]
    calc (2 : ℚ) ^ ((num.log2 : ℤ) - den.log2 - 1) * den
        ≤ 2 ^ ((num.log2 : ℤ) - (den.log2 + 1 : ℕ)) * 2 ^ (den.log2 + 1) := by
          rw [Nat.cast_succ, ← sub_sub]
          gcongr
      _ = 2 ^ num.log2 := hsplit _ _
      _ ≤ num := hnumlow
  · rw [div_lt_iff₀ hpos]
    calc (num : ℚ) < 2 ^ (num.log2 + 1) := hnumhigh
      _ = 2 ^ (((num.log2 + 1 : ℕ) : ℤ) - den.log2) * 2 ^ den.log2 := (hsplit _ _).symm
      _ ≤ 2 ^ ((num.log2 : ℤ) - den.log2 + 1) * den := by
          rw [Nat.cast_succ, add_sub_right_comm]
          gcongr

/-- **The exponent fits the fraction.** -/
theorem fitsExponent_fittingExponent (hnum : 0 < num) (hden : 0 < den) :
    FitsExponent (num / den) (fittingExponent num den) := by
  obtain ⟨hlow, hhigh⟩ := div_bounds_log2 hnum hden
  have hfits := two_zpow_le_iff num hden ((num.log2 : Int) - den.log2 - 52)
  rw [fittingExponent]
  generalize hguess : (num.log2 : Int) - den.log2 - 52 = guess at *
  generalize hbool : (if guess ≥ 0 then decide (den * Nat.pow 2 guess.toNat * Nat.pow 2 52 ≤ num)
      else decide (den * Nat.pow 2 52 ≤ num * Nat.pow 2 (-guess).toNat)) = fits at *
  -- one of the two candidates has the power of two with 52 below it, and with 53 above
  have hcandidate : (num / den : ℚ) < 2 ^ (53 + (if fits then guess else guess - 1)) ∧
      (2 : ℚ) ^ (52 + (if fits then guess else guess - 1)) ≤ num / den := by
    cases fits with
    | true =>
      refine ⟨?_, hfits.mp rfl⟩
      convert hhigh using 2
      simp only [if_true]
      omega
    | false =>
      have hlt : (num / den : ℚ) < 2 ^ (52 + guess) := by
        refine not_le.mp fun h => ?_
        exact Bool.false_ne_true (hfits.mpr h)
      constructor
      · convert hlt using 2
        simp only [Bool.false_eq_true, if_false]
        omega
      · convert hlow using 2
        simp only [Bool.false_eq_true, if_false]
        omega
  obtain ⟨hlt, hle⟩ := hcandidate
  generalize (if fits then guess else guess - 1) = e at *
  refine ⟨le_max_left _ _, hlt.trans_le ?_, ?_⟩
  · exact zpow_le_zpow_right₀ one_le_two (by omega)
  · rcases le_total e leastExponent with h | h
    · exact .inl (max_eq_left h)
    · exact .inr (by rwa [max_eq_right h])

end

/-! ## Nearest on the grid, nearest of all -/

/-- Half a unit above the greatest double; from here on numbers are too large. -/
def overflowBound : ℚ := (2 ^ 53 - 1 / 2) * 2 ^ greatestExponent

/-- A double is the nearest to a number that is not negative: infinite if the number is too large,
and else as close as any other double, the one with an even mantissa of two. -/
structure NearestTo (q : ℚ) (x : Float) : Prop where
  overflow : overflowBound ≤ q → x = infinity
  finite : q < overflowBound → ∃ v, value? x = some v ∧ ∀ y w, value? y = some w →
    |q - v| ≤ |q - w| ∧ (|q - v| = |q - w| → v = w ∨ Even (significand x.toModel.unpack))

/-- The values of doubles lie on the grid of an exponent, or they have a lower one. -/
theorem value?_cases {y : Float} {w : ℚ} (h : value? y = some w) (e : Int)
    (he : leastExponent ≤ e) :
    (∃ k : ℤ, w = k * 2 ^ e) ∨ leastExponent < e ∧ |w| < 2 ^ (52 + e) := by
  rcases unpack_of_value? h with ⟨-, -, rfl⟩ | ⟨s, m, e', hm, -, rfl, hcanonical⟩
  · exact .inl ⟨0, by simp⟩
  rcases le_or_gt e e' with hle | hlt
  · refine .inl ⟨s.apply m * 2 ^ (e' - e).toNat, ?_⟩
    have hshift : (2 : ℚ) ^ e' = 2 ^ (e' - e).toNat * 2 ^ e := by
      rw [← zpow_natCast, ← zpow_add₀ two_ne_zero]
      congr 1
      omega
    push_cast
    rw [cast_apply, hshift]
    ring
  · have hleast := hcanonical.least_le
    refine .inr ⟨by omega, ?_⟩
    have hmagnitude : (0 : ℚ) ≤ m * 2 ^ e' := by positivity
    have hmantissa : (m : ℚ) < 2 ^ (53 : ℤ) := by exact_mod_cast hcanonical.mantissa_lt
    rw [abs_mul, abs_signOf, one_mul, abs_of_nonneg hmagnitude]
    calc (m : ℚ) * 2 ^ e' < 2 ^ (53 : ℤ) * 2 ^ e' := by gcongr
      _ = 2 ^ (53 + e') := (zpow_add₀ two_ne_zero _ _).symm
      _ ≤ 2 ^ (52 + e) := zpow_le_zpow_right₀ one_le_two (by omega)

theorem abs_sub_grid (q : ℚ) (e : Int) (x : ℚ) : |q - x * 2 ^ e| = |q / 2 ^ e - x| * 2 ^ e := by
  have hpos : (0 : ℚ) < 2 ^ e := zpow_pos two_pos e
  rw [← abs_of_pos hpos, ← abs_mul, abs_of_pos hpos, sub_mul, div_mul_cancel₀ _ hpos.ne']

/-- **The nearest grid point is as close as any double**, and closer unless it is even. -/
theorem RoundsTo.near_value {q : ℚ} {m : ℕ} {e : Int} (h : RoundsTo (q / 2 ^ e) m)
    (hfits : FitsExponent q e) {y : Float} {w : ℚ} (hw : value? y = some w) :
    |q - m * 2 ^ e| ≤ |q - w| ∧ (|q - m * 2 ^ e| = |q - w| → m * 2 ^ e = w ∨ Even m) := by
  have hpos : (0 : ℚ) < 2 ^ e := zpow_pos two_pos e
  rcases value?_cases hw e hfits.least_le with ⟨k, rfl⟩ | ⟨hleast, hlt⟩
  · obtain ⟨hle, heq⟩ := h.near_int k
    rw [abs_sub_grid, abs_sub_grid]
    refine ⟨mul_le_mul_of_nonneg_right hle hpos.le, fun hdist => ?_⟩
    refine (heq (mul_right_cancel₀ hpos.ne' hdist)).imp_left fun hk => ?_
    rw [← hk, Int.cast_natCast]
  · -- the double is below the grid point with the least full mantissa, which is below the number
    have hfull := hfits.full.resolve_left (ne_of_gt hleast)
    obtain ⟨hle, -⟩ := h.near_int (2 ^ 52)
    have hgrid : |q - m * 2 ^ e| ≤ q - 2 ^ (52 + e) := by
      rw [← abs_of_nonneg (sub_nonneg.mpr hfull), zpow_add₀ two_ne_zero, abs_sub_grid,
        abs_sub_grid]
      refine mul_le_mul_of_nonneg_right ?_ hpos.le
      exact_mod_cast hle
    have hstrict : |q - m * 2 ^ e| < |q - w| :=
      calc |q - m * 2 ^ e| ≤ q - 2 ^ (52 + e) := hgrid
        _ < q - w := by linarith [le_abs_self w]
        _ ≤ |q - w| := le_abs_self _
    exact ⟨hstrict.le, fun heq => absurd heq hstrict.ne⟩

/-! ## The nearest magnitude -/

/-- A mantissa that rounds a number at a fitting exponent, in the form of a double: the mantissa may
have been rounded up to one bit more. -/
structure Magnitude.Rounds (x : Magnitude) (q : ℚ) (m : ℕ) (e : Int) : Prop where
  form : m < 2 ^ 53 ∧ x = ⟨m, e⟩ ∨ m = 2 ^ 53 ∧ x = ⟨2 ^ 52, e + 1⟩
  rounds : RoundsTo (q / 2 ^ e) m
  fits : FitsExponent q e

section

variable {q : ℚ} {m : ℕ} {e : Int}

theorem RoundsTo.le_of_fits (h : RoundsTo (q / 2 ^ e) m) (hfits : FitsExponent q e) :
    m ≤ 2 ^ 53 := by
  have hpos : (0 : ℚ) < 2 ^ e := zpow_pos two_pos e
  have hnear := abs_le.mp h.near
  have hlt : q / 2 ^ e < 2 ^ 53 := by
    rw [div_lt_iff₀ hpos]
    exact_mod_cast (zpow_add₀ (two_ne_zero (α := ℚ)) 53 e) ▸ hfits.lt
  have hm : (m : ℚ) < 2 ^ 53 + 1 := by linarith
  exact Nat.lt_succ_iff.mp (by exact_mod_cast hm)

theorem RoundsTo.full_of_fits (h : RoundsTo (q / 2 ^ e) m) (hfits : FitsExponent q e) :
    e = leastExponent ∨ 2 ^ 52 ≤ m := by
  have hpos : (0 : ℚ) < 2 ^ e := zpow_pos two_pos e
  have hnear := abs_le.mp h.near
  refine hfits.full.imp_right fun hfull => ?_
  have hle : 2 ^ 52 ≤ q / 2 ^ e := by
    rw [le_div_iff₀ hpos]
    exact_mod_cast (zpow_add₀ (two_ne_zero (α := ℚ)) 52 e) ▸ hfull
  have hm : (2 ^ 52 : ℚ) < m + 1 := by linarith
  exact Nat.lt_succ_iff.mp (by exact_mod_cast hm)

/-- **The nearest magnitude** rounds the fraction. -/
theorem Magnitude.rounds_nearest {num den : Nat} (hnum : 0 < num) (hden : 0 < den) :
    ∃ m e, (nearest num den).Rounds (num / den) m e := by
  have hfits := fitsExponent_fittingExponent hnum hden
  have hrounds := roundsTo_roundScaled num hden (fittingExponent num den)
  refine ⟨_, _, ?_, hrounds, hfits⟩
  have hle := hrounds.le_of_fits hfits
  rw [nearest]
  split_ifs with hmax
  · exact .inr ⟨hmax, rfl⟩
  · exact .inl ⟨Nat.lt_of_le_of_ne hle hmax, rfl⟩

namespace Magnitude.Rounds

variable {x : Magnitude} (h : x.Rounds q m e)

include h

theorem canonical : Canonical x.mantissa x.exponent := by
  have hleast := h.fits.least_le
  rcases h.form with ⟨hlt, rfl⟩ | ⟨-, rfl⟩
  · exact ⟨hlt, hleast, h.rounds.full_of_fits h.fits⟩
  · exact ⟨by norm_num, by dsimp only; omega, .inr (Nat.le_refl _)⟩

theorem value_eq : (x.mantissa * 2 ^ x.exponent : ℚ) = m * 2 ^ e := by
  rcases h.form with ⟨-, rfl⟩ | ⟨rfl, rfl⟩
  · rfl
  · rw [zpow_add₀ two_ne_zero]
    push_cast
    ring

theorem even (hm : Even m) : Even x.mantissa := by
  rcases h.form with ⟨-, rfl⟩ | ⟨-, rfl⟩
  · exact hm
  · exact ⟨2 ^ 51, rfl⟩

/-- The mantissa is rounded up to one bit more from half a unit below on. -/
theorem half_le_iff : (2 ^ 53 - 1 / 2 : ℚ) ≤ q / 2 ^ e ↔ m = 2 ^ 53 := by
  have hnear := abs_le.mp h.rounds.near
  constructor
  · intro hle
    have hm : (2 ^ 53 : ℚ) ≤ m + 1 := by linarith
    have hm' : 2 ^ 53 ≤ m + 1 := by exact_mod_cast hm
    have hle' := h.rounds.le_of_fits h.fits
    by_contra hne
    -- the greatest mantissa is odd, so that a half goes up from it
    have hodd : m = 2 ^ 53 - 1 := by omega
    have hcast : (m : ℚ) = 2 ^ 53 - 1 := by rw [hodd]; norm_num
    have htie : |q / 2 ^ e - m| = 1 / 2 :=
      le_antisymm h.rounds.near (le_trans (by rw [hcast]; linarith) (le_abs_self _))
    have heven := h.rounds.even htie
    rw [hodd] at heven
    exact absurd heven (by decide)
  · intro hm
    rw [hm] at hnear
    push_cast at hnear
    linarith

/-- A number is too large exactly if the exponent of its magnitude is. -/
theorem overflowBound_le_iff : overflowBound ≤ q ↔ greatestExponent < x.exponent := by
  have hpos : (0 : ℚ) < 2 ^ e := zpow_pos two_pos e
  have hhalf : (0 : ℚ) ≤ 2 ^ 53 - 1 / 2 := by norm_num
  have hbound : overflowBound ≤ 2 ^ (53 + greatestExponent) := by
    rw [overflowBound, zpow_add₀ two_ne_zero]
    exact mul_le_mul_of_nonneg_right (by norm_num) (zpow_pos two_pos _).le
  rcases h.form with ⟨hlt, rfl⟩ | ⟨hm, rfl⟩
  · constructor
    · intro hle
      refine not_le.mp fun he => hlt.ne (h.half_le_iff.mp ?_)
      rw [le_div_iff₀ hpos]
      refine le_trans (mul_le_mul_of_nonneg_left ?_ hhalf) hle
      exact zpow_le_zpow_right₀ one_le_two he
    · intro he
      have hleast : leastExponent < greatestExponent := by decide
      have hfull := h.fits.full.resolve_left (ne_of_gt (hleast.trans he))
      refine hbound.trans (le_trans ?_ hfull)
      exact zpow_le_zpow_right₀ one_le_two (by dsimp only at he; omega)
  · constructor
    · intro hle
      refine not_le.mp fun he => absurd h.fits.lt (not_lt.mpr ?_)
      have hlow : (2 : ℚ) ^ (52 + greatestExponent) ≤ overflowBound := by
        rw [overflowBound, zpow_add₀ two_ne_zero]
        exact mul_le_mul_of_nonneg_right (by norm_num) (zpow_pos two_pos _).le
      refine le_trans ?_ (hlow.trans hle)
      exact zpow_le_zpow_right₀ one_le_two (by dsimp only at he; omega)
    · intro he
      have hround := (le_div_iff₀ hpos).mp (h.half_le_iff.mpr hm)
      refine le_trans (mul_le_mul_of_nonneg_left ?_ hhalf) hround
      exact zpow_le_zpow_right₀ one_le_two (by dsimp only at he; omega)

/-- **The double of a magnitude that rounds a number** is nearest to the number. -/
theorem nearestTo : NearestTo q (Float.ofBits (x.toBits false)) where
  overflow hle := ofBits_toBits_overflow h.canonical (h.overflowBound_le_iff.mp hle)
  finite hlt := by
    have he : x.exponent ≤ greatestExponent := not_lt.mp (mt h.overflowBound_le_iff.mpr hlt.not_ge)
    obtain ⟨hvalue, hmantissa⟩ := value?_ofBits_toBits h.canonical he
    refine ⟨_, hvalue, fun y w hw => ?_⟩
    rw [h.value_eq, hmantissa]
    obtain ⟨hle, heq⟩ := h.rounds.near_value h.fits hw
    exact ⟨hle, fun hdist => (heq hdist).imp_right h.even⟩

end Magnitude.Rounds

end

/-! ## Decimals -/

theorem nearestTo_zero {q : ℚ} (h0 : 0 ≤ q) (hlt : q < 2 ^ (leastExponent - 1)) :
    NearestTo q (Float.ofBits 0) := by
  have hpos : (0 : ℚ) < 2 ^ leastExponent := zpow_pos two_pos _
  have hhalf : q / 2 ^ leastExponent < 1 / 2 := by
    rw [div_lt_iff₀ hpos, one_div, ← zpow_neg_one, ← zpow_add₀ two_ne_zero, add_comm]
    exact hlt
  have hrounds : RoundsTo (q / 2 ^ leastExponent) 0 := by
    have hfraction := RoundsTo.of_lt_half (n := 0) (div_nonneg h0 hpos.le) hhalf
    rwa [Nat.cast_zero, zero_add] at hfraction
  have hfits : FitsExponent q leastExponent :=
    ⟨le_refl _, hlt.trans (zpow_lt_zpow_right₀ one_lt_two (by omega)), .inl rfl⟩
  have hzero : Magnitude.Rounds ⟨0, leastExponent⟩ q 0 leastExponent :=
    ⟨.inl ⟨by decide, rfl⟩, hrounds, hfits⟩
  exact hzero.nearestTo

/-- **The double nearest to a fraction.** -/
theorem nearestTo_nearestBits (num den : Nat) (hden : 0 < den) :
    NearestTo (num / den) (Float.ofBits (nearestBits false num den)) := by
  rw [nearestBits]
  split_ifs with hzero
  · rw [hzero, Nat.cast_zero, zero_div]
    exact nearestTo_zero (le_refl 0) (zpow_pos two_pos _)
  · obtain ⟨m, e, hrounds⟩ := Magnitude.rounds_nearest (Nat.pos_of_ne_zero hzero) hden
    exact hrounds.nearestTo

theorem nearestTo_infinity {q : ℚ} (h : overflowBound ≤ q) : NearestTo q infinity :=
  ⟨fun _ => rfl, fun hlt => absurd h hlt.not_ge⟩

theorem decimal_bounds {digits : Nat} (hdigits : 0 < digits) (exponent : Int) :
    (10 : ℚ) ^ (exponent + (Nat.toDigits 10 digits).length - 1) ≤ digits * 10 ^ exponent ∧
      digits * (10 : ℚ) ^ exponent < 10 ^ (exponent + (Nat.toDigits 10 digits).length) := by
  generalize hlength : (Nat.toDigits 10 digits).length = length
  have hpos : 0 < length := hlength ▸ List.length_pos_iff.mpr Nat.toDigits_ne_nil
  have hlow : 10 ^ (length - 1) ≤ digits := by
    by_contra hlt
    rcases Nat.eq_zero_or_pos (length - 1) with hone | hone
    · rw [hone] at hlt
      omega
    · have hle := (Nat.length_toDigits_le_iff (by decide) hone).mpr (not_le.mp hlt)
      omega
  have hhigh : digits < 10 ^ length :=
    (Nat.length_toDigits_le_iff (by decide) hpos).mp hlength.le
  have hscale : (0 : ℚ) < 10 ^ exponent := zpow_pos (by norm_num) _
  constructor
  · rw [show exponent + length - 1 = ((length - 1 : ℕ) : ℤ) + exponent by omega,
      zpow_add₀ (by norm_num), zpow_natCast]
    exact mul_le_mul_of_nonneg_right (by exact_mod_cast hlow) hscale.le
  · rw [add_comm exponent, zpow_add₀ (by norm_num), zpow_natCast]
    exact mul_lt_mul_of_pos_right (by exact_mod_cast hhigh) hscale

theorem overflowBound_le : overflowBound ≤ 10 ^ (310 : ℤ) := by
  have hpow : 2 ^ 1024 ≤ 10 ^ 310 := by decide +kernel
  calc overflowBound ≤ 2 ^ 53 * 2 ^ greatestExponent :=
        mul_le_mul_of_nonneg_right (by norm_num) (zpow_pos two_pos _).le
    _ = 2 ^ (1024 : ℕ) := by
        rw [← zpow_natCast, ← zpow_natCast, ← zpow_add₀ two_ne_zero]
        rfl
    _ ≤ 10 ^ (310 : ℕ) := by exact_mod_cast hpow
    _ = 10 ^ (310 : ℤ) := (zpow_natCast _ _).symm

theorem ten_zpow_lt_half_least : (10 : ℚ) ^ (-331 : ℤ) < 2 ^ (leastExponent - 1) := by
  have hpow : 2 ^ 1075 < 10 ^ 331 := by decide +kernel
  have hten : (-331 : ℤ) = -((331 : ℕ) : ℤ) := rfl
  have hleast : leastExponent - 1 = -((1075 : ℕ) : ℤ) := rfl
  rw [hten, hleast, zpow_neg, zpow_neg, zpow_natCast, zpow_natCast]
  exact inv_strictAnti₀ (by positivity) (by exact_mod_cast hpow)

/-- **The double nearest to a decimal.** -/
theorem nearestTo_decimalFloat (digits : Nat) (exponent : Int) :
    NearestTo (digits * 10 ^ exponent) (decimalFloat false digits exponent) := by
  rw [decimalFloat, decimalBits]
  by_cases hzero : digits = 0
  · rw [if_pos hzero, hzero, Nat.cast_zero, zero_mul]
    exact nearestTo_zero (le_refl 0) (zpow_pos two_pos _)
  obtain ⟨hlow, hhigh⟩ := decimal_bounds (Nat.pos_of_ne_zero hzero) exponent
  rw [if_neg hzero]
  generalize exponent + ((Nat.toDigits 10 digits).length : Int) = order at *
  by_cases hlarge : order > 310
  · have hbound : overflowBound ≤ digits * 10 ^ exponent :=
      overflowBound_le.trans
        ((zpow_le_zpow_right₀ (by norm_num) (by omega)).trans hlow)
    have hbits : nearestBits false (Nat.pow 2 1025) 1 = infinityBits := by decide +kernel
    rw [if_pos hlarge, hbits]
    exact nearestTo_infinity hbound
  by_cases hsmall : order < -330
  · rw [if_neg hlarge, if_pos hsmall]
    refine nearestTo_zero (by positivity) (hhigh.trans_le ?_)
    exact (zpow_le_zpow_right₀ (by norm_num) (by omega)).trans ten_zpow_lt_half_least.le
  rw [if_neg hlarge, if_neg hsmall]
  by_cases hwhole : exponent ≥ 0
  · obtain ⟨k, rfl⟩ := Int.eq_ofNat_of_zero_le hwhole
    rw [if_pos hwhole, Int.toNat_natCast, zpow_natCast]
    have hnearest := nearestTo_nearestBits (digits * Nat.pow 10 k) 1 one_pos
    rwa [Nat.cast_one, div_one, Nat.cast_mul, Nat.pow_eq, Nat.cast_pow, Nat.cast_ofNat]
      at hnearest
  · obtain ⟨k, hk⟩ := Int.eq_ofNat_of_zero_le (show 0 ≤ -exponent by omega)
    have hnearest := nearestTo_nearestBits digits (Nat.pow 10 k) (Nat.pow_pos (by decide))
    rw [Nat.pow_eq, Nat.cast_pow, Nat.cast_ofNat] at hnearest
    rw [if_neg hwhole, hk, Int.toNat_natCast, show exponent = -(k : ℤ) by omega, zpow_neg,
      zpow_natCast, ← div_eq_mul_inv]
    exact hnearest

end ExperimentQuery.Decimal
