import ExperimentQuery.Proofs.Decimal.Nearest

/-!
# Products and quotients of doubles

A product or a quotient of doubles is computed with more bits than a double has, together with a
mark for what is left of the exact result, and then rounded. So it rounds the exact result in the
same way as reading a decimal does, and a result that is finite and not zero is off by half of
itself at most.

* `Marks`: a mantissa with its marks stands for an exact number;
* `Marks.shiftRight`, `Marks.roundsTo`: leaving out bits, and rounding;
* `Holds`: an unpacked double holds a magnitude;
* **`roundWithAccuracy_rounds`**: what rounding an exact result gives;
* **`abs_mul_sub_le`**, **`abs_div_sub_le`**: how far a product and a quotient are off;
* `mul_eq_self`, `div_eq_self`: what is zero or not finite stays when it is scaled.
-/

namespace ExperimentQuery.Decimal

open Float.Model (UnpackedFloat Format totalExponent)
open Float.Model.UnpackedFloat (Sign Accuracy ExtendedMantissa roundWithAccuracy
  shiftToTargetExponent accuracyOfFraction)

/-! ## Marks -/

/-- A mantissa with two marks stands for a number: the first mark tells whether the number is half a
unit above the mantissa or more, and the second one whether anything is left beyond that. -/
def Marks : ExtendedMantissa → ℚ → Prop
  | ⟨m, false, false⟩, q => q = m
  | ⟨m, false, true⟩, q => m < q ∧ q < m + 1 / 2
  | ⟨m, true, false⟩, q => q = m + 1 / 2
  | ⟨m, true, true⟩, q => m + 1 / 2 < q ∧ q < m + 1

namespace Marks

variable {em : ExtendedMantissa} {q : ℚ}

theorem bounds (h : Marks em q) : (em.mantissa : ℚ) ≤ q ∧ q < em.mantissa + 1 := by
  obtain ⟨m, round, sticky⟩ := em
  cases round <;> cases sticky <;> simp only [Marks] at h ⊢ <;> constructor <;> linarith

/-- Leaving out the last bit halves the number, and the bit becomes the first mark. -/
theorem shiftRightOne (h : Marks em q) : Marks em.shiftRightOne (q / 2) := by
  obtain ⟨m, round, sticky⟩ := em
  have hm : (m : ℚ) = 2 * (m / 2 : ℕ) + (m % 2 : ℕ) := by
    exact_mod_cast (Nat.div_add_mod m 2).symm
  rw [ExtendedMantissa.shiftRightOne]
  dsimp only
  rcases Nat.mod_two_eq_zero_or_one m with hbit | hbit
  · have hmark : (m % 2 != 0) = false := by rw [hbit]; rfl
    rw [hbit, Nat.cast_zero] at hm
    rw [hmark]
    cases round <;> cases sticky <;>
      simp only [Marks, Bool.or_false, Bool.or_true] at h ⊢ <;>
      first | linarith | (constructor <;> linarith)
  · have hmark : (m % 2 != 0) = true := by rw [hbit]; rfl
    rw [hbit, Nat.cast_one] at hm
    rw [hmark]
    cases round <;> cases sticky <;>
      simp only [Marks, Bool.or_false, Bool.or_true] at h ⊢ <;>
      first | linarith | (constructor <;> linarith)

theorem shiftRight (h : Marks em q) (k : Nat) : Marks (em >>> k) (q / 2 ^ k) := by
  induction k with
  | zero =>
    rw [pow_zero, div_one]
    exact h
  | succ k ih =>
    rw [pow_succ, ← div_div]
    exact ih.shiftRightOne

/-- **The mantissa is rounded by its marks** to the nearest whole number. -/
theorem roundsTo (h : Marks em q) : RoundsTo q em.roundedMantissa := by
  obtain ⟨m, round, sticky⟩ := em
  obtain ⟨f, rfl⟩ : ∃ f, q = m + f := ⟨q - m, by ring⟩
  cases round <;> cases sticky
  · have hf : f = 0 := by simpa [Marks] using h
    exact .of_lt_half hf.ge (by rw [hf]; norm_num)
  · obtain ⟨hlow, hhigh⟩ := h
    exact .of_lt_half (by linarith) (by linarith)
  · have hf : f = 1 / 2 := by simpa [Marks] using h
    have hround : m + m % 2 = if m % 2 = 0 then m else m + 1 := by
      split_ifs <;> omega
    rw [hf]
    change RoundsTo _ (m + m % 2)
    rw [hround]
    exact .of_half
  · obtain ⟨hlow, hhigh⟩ := h
    exact .of_half_lt (by linarith) (by linarith)

end Marks

/-! ## Rounding twice -/

/-- An unpacked double holds a magnitude with a sign. -/
structure Holds (u : UnpackedFloat) (s : Sign) (x : Magnitude) : Prop where
  zero : x.mantissa = 0 → u = .zero s
  finite : ∀ h : 0 < x.mantissa, u = .finite s x.mantissa x.exponent h

theorem targetExponent_eq (m : Nat) (e : Int) :
    Format.binary64.targetExponent (totalExponent m e) = max (m.log2 + e - 52) leastExponent := by
  have hmin : Format.binary64.minExponent = leastExponent := rfl
  have hbits : (Format.binary64.mantissaBits : Int) = 53 := rfl
  rw [Format.targetExponent, totalExponent, hmin, hbits]
  omega

theorem shiftToTargetExponent_of_lt {m : Nat} {e : Int} (hm : m < 2 ^ 53) (he : leastExponent ≤ e) :
    shiftToTargetExponent .binary64 m e .exact = (⟨m, false, false⟩, e) := by
  have hlog : m.log2 ≤ 52 := by
    rcases Nat.eq_zero_or_pos m with rfl | hpos
    · decide
    · exact Nat.lt_succ_iff.mp ((Nat.log2_lt (Nat.ne_of_gt hpos)).mpr hm)
  have hshift : (max (m.log2 + e - 52) leastExponent - e).toNat = 0 := by omega
  rw [shiftToTargetExponent, targetExponent_eq, UnpackedFloat.shiftToExponent, hshift]
  exact congrArg (_, ·) (Int.add_zero e)

theorem shiftToTargetExponent_of_eq {e : Int} (he : leastExponent ≤ e) :
    shiftToTargetExponent .binary64 (2 ^ 53) e .exact = (⟨2 ^ 52, false, false⟩, e + 1) := by
  have hleast : leastExponent = -1074 := rfl
  have hlog : (2 ^ 53).log2 = 53 := Nat.log2_two_pow
  have hshift : (max ((2 ^ 53).log2 + e - 52) leastExponent - e).toNat = 1 := by
    rw [hlog]
    omega
  rw [shiftToTargetExponent, targetExponent_eq, UnpackedFloat.shiftToExponent, hshift]
  rfl

section

variable {s : Sign} {m : Nat} {e : Int} {acc : Accuracy} {q : ℚ}

theorem mantissa_ofMantissaAndAccuracy :
    (ExtendedMantissa.ofMantissaAndAccuracy m acc).mantissa = m := by
  cases acc with
  | exact => rfl
  | inexact o => cases o <;> rfl

/-- The exponent that an exact result is rounded at fits the result. -/
theorem fitsExponent_target (hq : Marks (.ofMantissaAndAccuracy m acc) q)
    (hbits : e ≤ leastExponent ∨ 2 ^ 52 ≤ m) :
    FitsExponent (q * 2 ^ e) (max (m.log2 + e - 52) leastExponent) := by
  obtain ⟨hlow, hhigh⟩ := hq.bounds
  rw [mantissa_ofMantissaAndAccuracy] at hlow hhigh
  have hpos : (0 : ℚ) < 2 ^ e := zpow_pos two_pos e
  refine ⟨le_max_right _ _, ?_, ?_⟩
  · have hlt : (m + 1 : ℚ) ≤ 2 ^ (m.log2 + 1) := by exact_mod_cast Nat.lt_log2_self
    calc q * 2 ^ e < 2 ^ (m.log2 + 1) * 2 ^ e := mul_lt_mul_of_pos_right (hhigh.trans_le hlt) hpos
      _ = 2 ^ (((m.log2 + 1 : ℕ) : ℤ) + e) := by rw [zpow_add₀ two_ne_zero, zpow_natCast]
      _ ≤ 2 ^ (53 + max (m.log2 + e - 52) leastExponent) :=
        zpow_le_zpow_right₀ one_le_two (by omega)
  · rcases Nat.eq_zero_or_pos m with rfl | hm
    · have he : e ≤ leastExponent := hbits.resolve_right (by decide)
      exact .inl (max_eq_right (by change ((0 : Nat) : ℤ) + e - 52 ≤ leastExponent; omega))
    · rcases le_total (m.log2 + e - 52) leastExponent with hle | hle
      · exact .inl (max_eq_right hle)
      · have hlog : (2 ^ m.log2 : ℚ) ≤ m := by exact_mod_cast Nat.log2_self_le (Nat.ne_of_gt hm)
        refine .inr ?_
        calc (2 : ℚ) ^ (52 + max (m.log2 + e - 52) leastExponent) = 2 ^ m.log2 * 2 ^ e := by
              rw [max_eq_left hle, ← zpow_natCast, ← zpow_add₀ two_ne_zero]
              congr 1
              omega
          _ ≤ q * 2 ^ e := mul_le_mul_of_nonneg_right (hlog.trans hlow) hpos.le

/-- **Rounding an exact result** that has bits enough gives the nearest magnitude. -/
theorem roundWithAccuracy_rounds (hq : Marks (.ofMantissaAndAccuracy m acc) q)
    (hbits : e ≤ leastExponent ∨ 2 ^ 52 ≤ m) :
    ∃ (x : Magnitude) (r : ℕ) (t : Int), x.Rounds (q * 2 ^ e) r t ∧
      Holds (roundWithAccuracy .binary64 s m e acc) s x := by
  have hfits := fitsExponent_target hq hbits
  generalize ht : max (m.log2 + e - 52) leastExponent = t at hfits
  have hshift : e ≤ t := by
    rcases hbits with he | hm
    · omega
    · have hlog : 52 ≤ m.log2 := (Nat.le_log2 (by omega)).mpr hm
      omega
  obtain ⟨k, hk⟩ : ∃ k : ℕ, t = e + k := ⟨(t - e).toNat, by omega⟩
  have hfirst : shiftToTargetExponent .binary64 m e acc =
      (ExtendedMantissa.ofMantissaAndAccuracy m acc >>> k, t) := by
    rw [shiftToTargetExponent, targetExponent_eq, ht, UnpackedFloat.shiftToExponent, hk,
      add_sub_cancel_left, Int.toNat_natCast]
  have hrounds := (hq.shiftRight k).roundsTo
  have hscale : q / 2 ^ k = q * 2 ^ e / 2 ^ t := by
    rw [hk, zpow_add₀ two_ne_zero, zpow_natCast]
    field_simp
  rw [hscale] at hrounds
  have hle := hrounds.le_of_fits hfits
  unfold roundWithAccuracy
  rw [hfirst]
  dsimp only
  generalize (ExtendedMantissa.ofMantissaAndAccuracy m acc >>> k).roundedMantissa = r at *
  rcases Nat.lt_or_eq_of_le hle with hlt | heq
  · refine ⟨⟨r, t⟩, r, t, ⟨.inl ⟨hlt, rfl⟩, hrounds, hfits⟩, ?_, ?_⟩ <;>
      rw [shiftToTargetExponent_of_lt hlt hfits.least_le]
    · exact fun hzero => dif_pos hzero
    · exact fun hpos => dif_neg (Nat.ne_of_gt hpos)
  · refine ⟨⟨2 ^ 52, t + 1⟩, r, t, ⟨.inr ⟨heq, rfl⟩, hrounds, hfits⟩, ?_, ?_⟩
    · exact fun hzero => absurd hzero (Nat.ne_of_gt (Nat.two_pow_pos 52))
    · intro hpos
      rw [heq, shiftToTargetExponent_of_eq hfits.least_le]
      exact dif_neg (Nat.ne_of_gt hpos)

end

/-! ## Values of rounded results -/

theorem signOf_mul (s t : Sign) : signOf (s * t) = signOf s * signOf t := by
  cases s <;> cases t <;> simp [signOf]

theorem signOf_div (s t : Sign) : signOf (s / t) = signOf s / signOf t := by
  cases s <;> cases t <;> simp [signOf] <;> rfl

theorem unpack_pack_zero (s : Sign) : (Float.Model.pack (.zero s)).unpack = .zero s := by
  cases s <;> rfl

theorem unpack_pack_infinity (s : Sign) :
    (Float.Model.pack (.infinity s)).unpack = .infinity s := by
  cases s <;> rfl

theorem Magnitude.Rounds.abs_sub_le {x : Magnitude} {q : ℚ} {m : ℕ} {e : Int}
    (h : x.Rounds q m e) (hx : 0 < x.mantissa) :
    |q - x.mantissa * 2 ^ x.exponent| ≤ x.mantissa * 2 ^ x.exponent / 2 := by
  have hpos : (0 : ℚ) < 2 ^ e := zpow_pos two_pos e
  have hvalue : (0 : ℚ) < x.mantissa * 2 ^ x.exponent :=
    mul_pos (by exact_mod_cast hx) (zpow_pos two_pos _)
  rw [h.value_eq] at hvalue ⊢
  have hm : 1 ≤ m := Nat.one_le_iff_ne_zero.mpr fun hzero => by simp [hzero] at hvalue
  have hm' : (1 : ℚ) ≤ m := by exact_mod_cast hm
  calc |q - m * 2 ^ e| = |q / 2 ^ e - m| * 2 ^ e := abs_sub_grid q e m
    _ ≤ 1 / 2 * 2 ^ e := mul_le_mul_of_nonneg_right h.rounds.near hpos.le
    _ ≤ m / 2 * 2 ^ e := mul_le_mul_of_nonneg_right (by linarith) hpos.le
    _ = m * 2 ^ e / 2 := by ring

/-- **A result that was rounded**, is finite and not zero, is off by half of itself at most. -/
theorem Holds.abs_sub_le {u : UnpackedFloat} {s : Sign} {x : Magnitude} {q : ℚ} {m : ℕ} {e : Int}
    (hu : Holds u s x) (hx : x.Rounds q m e) {w : ℚ}
    (hw : unpackedValue? (Float.Model.pack u).unpack = some w) (hne : w ≠ 0) :
    |signOf s * q - w| ≤ |w| / 2 := by
  rcases Nat.eq_zero_or_pos x.mantissa with hzero | hpos
  · rw [hu.zero hzero, unpack_pack_zero] at hw
    exact absurd (Option.some.inj hw).symm hne
  · rw [hu.finite hpos, unpack_pack_finite hpos hx.canonical] at hw
    split_ifs at hw
    · obtain rfl := Option.some.inj hw
      have hle := hx.abs_sub_le hpos
      have hvalue : (0 : ℚ) ≤ x.mantissa * 2 ^ x.exponent := by positivity
      rw [cast_apply, mul_assoc, ← mul_sub, abs_mul, abs_mul, abs_signOf, one_mul, one_mul,
        abs_of_nonneg hvalue]
      exact hle
    · exact nomatch hw

theorem unpack_of_pos {x : Float} {v : ℚ} (h : value? x = some v) (hv : 0 < v) :
    ∃ m e, ∃ hm : 0 < m, x.toModel.unpack = .finite .positive m e hm := by
  rcases unpack_of_value? h with ⟨s, -, rfl⟩ | ⟨s, m, e, hm, hs, rfl, -⟩
  · exact absurd hv (lt_irrefl 0)
  · cases s with
    | positive => exact ⟨m, e, hm, hs⟩
    | negative =>
      have hmagnitude : (0 : ℚ) ≤ m * 2 ^ e := by positivity
      simp only [signOf] at hv
      linarith

/-- An operation on unpacked doubles that fixes zeros, infinities and what is not a number fixes
every double whose value, if it has one, is zero. -/
theorem unpack_pack_of_fixed {x : Float} {f : UnpackedFloat → UnpackedFloat}
    (hzero : ∀ s, f (.zero s) = .zero s) (hinfinity : ∀ s, f (.infinity s) = .infinity s)
    (hnotANumber : f .notANumber = .notANumber) (hx : ∀ v, value? x = some v → v = 0) :
    (Float.Model.pack (f x.toModel.unpack)).unpack = x.toModel.unpack := by
  cases hs : x.toModel.unpack with
  | zero s => rw [hzero, unpack_pack_zero]
  | infinity s => rw [hinfinity, unpack_pack_infinity]
  | notANumber =>
    rw [hnotANumber]
    rfl
  | finite s m e hm =>
    have hvalue := hx _ (congrArg unpackedValue? hs)
    have hmagnitude : (m : ℚ) * 2 ^ e ≠ 0 := by positivity
    have hsign : signOf s ≠ 0 := abs_ne_zero.mp (by rw [abs_signOf]; exact one_ne_zero)
    rw [cast_apply, mul_assoc] at hvalue
    exact absurd hvalue (mul_ne_zero hsign hmagnitude)

/-! ## Products -/

theorem unpack_mul (x y : Float) :
    (x * y).toModel.unpack =
      (Float.Model.pack (.mul .binary64 x.toModel.unpack y.toModel.unpack)).unpack := rfl

/-- **A product that is finite and not zero** is off by half of itself at most. -/
theorem abs_mul_sub_le {x y : Float} {v a w : ℚ} (hx : value? x = some v) (hy : value? y = some a)
    (hw : value? (x * y) = some w) (hne : w ≠ 0) : |v * a - w| ≤ |w| / 2 := by
  rw [value?, unpack_mul] at hw
  have hzero : ∀ s, UnpackedFloat.mul .binary64 x.toModel.unpack y.toModel.unpack ≠ .zero s := by
    intro s hs
    rw [hs, unpack_pack_zero] at hw
    exact hne (Option.some.inj hw).symm
  rcases unpack_of_value? hx with ⟨s, hs, -⟩ | ⟨s, m, e, hm, hs, rfl, hxm⟩ <;>
    rcases unpack_of_value? hy with ⟨t, ht, -⟩ | ⟨t, n, d, hn, ht, rfl, hyn⟩ <;>
    rw [hs, ht] at hw hzero
  · exact absurd rfl (hzero _)
  · exact absurd rfl (hzero _)
  · exact absurd rfl (hzero _)
  · -- one full mantissa is enough, and without any the exponents are the least ones
    have hbits : e + d ≤ leastExponent ∨ 2 ^ 52 ≤ m * n := by
      have hleast : leastExponent = -1074 := rfl
      rcases hxm.full with he | hfull
      · rcases hyn.full with hd | hfull
        · exact .inl (by omega)
        · exact .inr (Nat.le_trans hfull (Nat.le_mul_of_pos_left n hm))
      · exact .inr (Nat.le_trans hfull (Nat.le_mul_of_pos_right m hn))
    have hmarks : Marks (.ofMantissaAndAccuracy (m * n) .exact) ((m * n : ℕ) : ℚ) := rfl
    obtain ⟨z, r, k, hrounds, hholds⟩ := roundWithAccuracy_rounds (s := s * t) hmarks hbits
    have hle := hholds.abs_sub_le hrounds hw hne
    have hvalue : signOf s * (m * 2 ^ e) * (signOf t * (n * 2 ^ d)) =
        signOf (s * t) * ((m * n : ℕ) * 2 ^ (e + d)) := by
      rw [signOf_mul, zpow_add₀ two_ne_zero]
      push_cast
      ring
    rwa [hvalue]

/-- A product that is finite and not zero is two thirds of the exact one at least. -/
theorem abs_mul_le {x y : Float} {v a w : ℚ} (hx : value? x = some v) (hy : value? y = some a)
    (hw : value? (x * y) = some w) (hne : w ≠ 0) : |v| * |a| ≤ 3 / 2 * |w| := by
  have hnear := abs_mul_sub_le hx hy hw hne
  have hle := abs_sub_abs_le_abs_sub (v * a) w
  rw [abs_mul] at hle
  linarith

theorem mul_eq_self {x y : Float} {a : ℚ} (hx : ∀ v, value? x = some v → v = 0)
    (hy : value? y = some a) (ha : 0 < a) : x * y = x := by
  obtain ⟨n, d, hn, ht⟩ := unpack_of_pos hy ha
  refine ext_unpack ?_
  rw [unpack_mul, ht]
  refine unpack_pack_of_fixed (f := (UnpackedFloat.mul .binary64 · (.finite .positive n d hn)))
    (fun s => ?_) (fun s => ?_) rfl hx <;> cases s <;> rfl

/-! ## Quotients -/

theorem unpack_div (x y : Float) :
    (x / y).toModel.unpack =
      (Float.Model.pack (.div .binary64 x.toModel.unpack y.toModel.unpack)).unpack := rfl

theorem marks_div (m : Nat) {n : Nat} (hn : 0 < n) :
    Marks (.ofMantissaAndAccuracy (m / n) (accuracyOfFraction (m % n) n)) (m / n : ℚ) := by
  have hpos : (0 : ℚ) < n := by exact_mod_cast hn
  have hlt : ((m % n : ℕ) : ℚ) / n < 1 := by
    rw [div_lt_one hpos]
    exact_mod_cast Nat.mod_lt m hn
  rw [div_eq_add_mod m hn]
  unfold accuracyOfFraction
  split_ifs with hzero
  · rw [hzero]
    simp [Marks, ExtendedMantissa.ofMantissaAndAccuracy]
  · have hmod : (0 : ℚ) < (m % n : ℕ) := by exact_mod_cast Nat.pos_of_ne_zero hzero
    have hfraction : 0 < ((m % n : ℕ) : ℚ) / n := div_pos hmod hpos
    rcases Nat.lt_trichotomy (2 * (m % n)) n with hless | hhalf | hmore
    · have hless' : (2 * (m % n : ℕ) : ℚ) < n := by exact_mod_cast hless
      have hhalf : ((m % n : ℕ) : ℚ) / n < 1 / 2 := by
        rw [div_lt_iff₀ hpos]
        linarith
      rw [Nat.compare_eq_lt.mpr hless]
      exact ⟨by linarith, by linarith⟩
    · have hhalf' : (2 * (m % n : ℕ) : ℚ) = n := by exact_mod_cast hhalf
      have heq : ((m % n : ℕ) : ℚ) / n = 1 / 2 := by
        rw [div_eq_iff hpos.ne']
        linarith
      rw [Nat.compare_eq_eq.mpr hhalf, heq]
      rfl
    · have hmore' : (n : ℚ) < 2 * (m % n : ℕ) := by exact_mod_cast hmore
      have hhalf : 1 / 2 < ((m % n : ℕ) : ℚ) / n := by
        rw [lt_div_iff₀ hpos]
        linarith
      rw [Nat.compare_eq_gt.mpr hmore]
      exact ⟨by linarith, by linarith⟩

/-- The dividend is shifted by as many bits as a full mantissa of the quotient takes, unless the
exponent is small already. -/
theorem div_bits {m n : Nat} (hm : 0 < m) (hn : 0 < n) {e d t : Int} (ht : t ≤ e - d)
    (hle : t ≤ Format.binary64.targetExponent (totalExponent m e - totalExponent n d)) :
    t ≤ leastExponent ∨ 2 ^ 52 ≤ m * 2 ^ (e - d - t).toNat / n := by
  have hbits : (Format.binary64.mantissaBits : Int) = 53 := rfl
  have hmin : Format.binary64.minExponent = leastExponent := rfl
  rw [Format.targetExponent, hbits, hmin, totalExponent, totalExponent] at hle
  refine or_iff_not_imp_left.mpr fun hmore => ?_
  have hpow : 53 + n.log2 ≤ m.log2 + (e - d - t).toNat := by omega
  rw [Nat.le_div_iff_mul_le hn]
  calc 2 ^ 52 * n ≤ 2 ^ 52 * 2 ^ (n.log2 + 1) := Nat.mul_le_mul_left _ Nat.lt_log2_self.le
    _ = 2 ^ (53 + n.log2) := by rw [← Nat.pow_add]; congr 1; omega
    _ ≤ 2 ^ (m.log2 + (e - d - t).toNat) := Nat.pow_le_pow_right Nat.zero_lt_two hpow
    _ = 2 ^ m.log2 * 2 ^ (e - d - t).toNat := Nat.pow_add _ _ _
    _ ≤ m * 2 ^ (e - d - t).toNat := Nat.mul_le_mul_right _ (Nat.log2_self_le (Nat.ne_of_gt hm))

/-- **A quotient rounds the exact one.** -/
theorem div_rounds {s t : Sign} {m n : Nat} {e d : Int} (hm : 0 < m) (hn : 0 < n) :
    ∃ (x : Magnitude) (r : ℕ) (k : Int), x.Rounds (m / n * 2 ^ (e - d)) r k ∧
      Holds (.div .binary64 (.finite s m e hm) (.finite t n d hn)) (s / t) x := by
  generalize hexponent :
    min (e - d) (Format.binary64.targetExponent (totalExponent m e - totalExponent n d)) = k
  have hshift : m <<< (e - d - k).toNat = m * 2 ^ (e - d - k).toNat := Nat.shiftLeft_eq _ _
  have hdiv : UnpackedFloat.div .binary64 (.finite s m e hm) (.finite t n d hn) =
      roundWithAccuracy .binary64 (s / t) (m * 2 ^ (e - d - k).toNat / n) k
        (accuracyOfFraction (m * 2 ^ (e - d - k).toNat % n) n) := by
    rw [← hshift, ← hexponent]
    rfl
  have hle : k ≤ e - d := hexponent ▸ min_le_left _ _
  have hbits := div_bits hm hn hle (hexponent ▸ min_le_right _ _)
  have hvalue : ((m * 2 ^ (e - d - k).toNat : ℕ) : ℚ) / n * 2 ^ k = m / n * 2 ^ (e - d) := by
    obtain ⟨j, hj⟩ : ∃ j : ℕ, e - d = k + j := ⟨(e - d - k).toNat, by omega⟩
    rw [hj, add_sub_cancel_left, Int.toNat_natCast, zpow_add₀ two_ne_zero, zpow_natCast]
    push_cast
    ring
  rw [hdiv, ← hvalue]
  exact roundWithAccuracy_rounds (marks_div _ hn) hbits

/-- **A quotient that is finite and not zero** is off by half of itself at most. -/
theorem abs_div_sub_le {x y : Float} {v a w : ℚ} (hx : value? x = some v) (hy : value? y = some a)
    (hw : value? (x / y) = some w) (hne : w ≠ 0) : |v / a - w| ≤ |w| / 2 := by
  rw [value?, unpack_div] at hw
  rcases unpack_of_value? hx with ⟨s, hs, -⟩ | ⟨s, m, e, hm, hs, rfl, hxm⟩ <;>
    rcases unpack_of_value? hy with ⟨t, ht, -⟩ | ⟨t, n, d, hn, ht, rfl, hyn⟩ <;>
    rw [hs, ht] at hw
  · have hnone : unpackedValue? (Float.Model.pack .notANumber).unpack = none := rfl
    cases hnone.symm.trans hw
  · have hzero : unpackedValue? (Float.Model.pack (.zero (s / t))).unpack = some 0 := by
      rw [unpack_pack_zero]
      rfl
    exact absurd (Option.some.inj (hw.symm.trans hzero)) hne
  · have hnone : unpackedValue? (Float.Model.pack (.infinity (s / t))).unpack = none := by
      rw [unpack_pack_infinity]
      rfl
    cases hnone.symm.trans hw
  · obtain ⟨z, r, k, hrounds, hholds⟩ := div_rounds (s := s) (t := t) (e := e) (d := d) hm hn
    have hle := hholds.abs_sub_le hrounds hw hne
    have hvalue : signOf s * (m * 2 ^ e) / (signOf t * (n * 2 ^ d)) =
        signOf (s / t) * (m / n * 2 ^ (e - d)) := by
      rw [signOf_div, zpow_sub₀ two_ne_zero]
      field_simp
    rwa [hvalue]

/-- A quotient that is finite and not zero is twice the exact one at most. -/
theorem abs_le_div {x y : Float} {v a w : ℚ} (hx : value? x = some v) (hy : value? y = some a)
    (hw : value? (x / y) = some w) (hne : w ≠ 0) : |w| ≤ 2 * (|v| / |a|) := by
  have hnear := abs_div_sub_le hx hy hw hne
  have hle := abs_sub_abs_le_abs_sub w (v / a)
  rw [abs_div, abs_sub_comm] at hle
  linarith

theorem div_eq_self {x y : Float} {a : ℚ} (hx : ∀ v, value? x = some v → v = 0)
    (hy : value? y = some a) (ha : 0 < a) : x / y = x := by
  obtain ⟨n, d, hn, ht⟩ := unpack_of_pos hy ha
  refine ext_unpack ?_
  rw [unpack_div, ht]
  refine unpack_pack_of_fixed (f := (UnpackedFloat.div .binary64 · (.finite .positive n d hn)))
    (fun s => ?_) (fun s => ?_) rfl hx <;> cases s <;> rfl

end ExperimentQuery.Decimal
