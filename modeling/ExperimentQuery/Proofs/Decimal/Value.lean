import ExperimentQuery.Decimal.Binary
import ExperimentQuery.Proofs.Decimal.Bits

/-!
# The values of doubles

A finite double stands for a rational number: a sign and a mantissa times a power of two. The
mantissa has 53 bits unless the exponent is the least one, so that every magnitude has one form
only. Packing such a form and unpacking it again gives the form back, or an infinity if the exponent
is too large.

* `Canonical`: the mantissas and exponents of doubles;
* `value?`: the number that a double stands for, if it is finite;
* `canonical_of_unpack`, `unpack_of_value?`: every finite double is in this form, or a zero;
* **`unpack_pack_finite`**: what packing the form gives;
* `Magnitude.value?_ofBits_toBits`: the double of a magnitude stands for it.
-/

namespace ExperimentQuery.Decimal

open Float.Model (UnpackedFloat Format)
open Float.Model.UnpackedFloat (Sign packComponents unpackSign unpackExponent unpackMantissa)

/-! ## Forms and values -/

/-- The mantissa has at most 53 bits, and has all of them unless the exponent is the least. -/
structure Canonical (m : Nat) (e : Int) : Prop where
  mantissa_lt : m < 2 ^ 53
  least_le : leastExponent ≤ e
  full : e = leastExponent ∨ 2 ^ 52 ≤ m

/-- The greatest exponent of a finite double. -/
def greatestExponent : Int := 971

/-- The number that an unpacked double stands for, if it is finite. -/
def unpackedValue? : UnpackedFloat → Option ℚ
  | .zero _ => some 0
  | .finite s m e _ => some ((s.apply m : ℤ) * 2 ^ e)
  | .infinity _ => none
  | .notANumber => none

/-- The mantissa of an unpacked double. -/
def significand : UnpackedFloat → Nat
  | .finite _ m _ _ => m
  | _ => 0

/-- The number that a double stands for, if it is finite. -/
def value? (x : Float) : Option ℚ := unpackedValue? x.toModel.unpack

theorem value?_of_unpack {x : Float} {m : Nat} {e : Int} {v : ℚ} (hm : 0 < m)
    (hx : x.toModel.unpack = .finite .positive m e hm) (hv : (m : ℚ) * 2 ^ e = v) :
    value? x = some v := by
  rw [value?, hx, ← hv]
  rfl

/-! ## Unpacking -/

theorem canonical_of_unpack {b : BitVec Format.binary64.numBits} {s : Sign} {m : Nat} {e : Int}
    {hm : 0 < m} (h : UnpackedFloat.unpack .binary64 b = .finite s m e hm) :
    Canonical m e ∧ e ≤ greatestExponent := by
  unfold UnpackedFloat.unpack at h
  dsimp only at h
  split at h
  · split at h <;> cases h
  next hones =>
    have hlt := (unpackExponent b).isLt
    have hmantissa := (unpackMantissa b).isLt
    have hhigh : (unpackExponent b).toNat ≠ 2047 := fun h => hones (BitVec.toNat_inj.mp h)
    split at h
    next hzero =>
      split at h
      · cases h
      · cases h
        have hexponent : (unpackExponent b).toNat = 0 := congrArg BitVec.toNat hzero
        rw [hexponent]
        exact ⟨⟨Nat.lt_trans hmantissa (by decide), by decide, .inl rfl⟩, by decide⟩
    next hzero =>
      cases h
      have hlow : (unpackExponent b).toNat ≠ 0 := fun h => hzero (BitVec.toNat_inj.mp h)
      have hvalue := toNat_implicit_append (unpackMantissa b)
      have hbias : Format.binary64.exponentBias = 1023 := rfl
      change (unpackExponent b).toNat < 2048 at hlt
      change (unpackMantissa b).toNat < 2 ^ 52 at hmantissa
      have hleast : leastExponent = -1074 := rfl
      have hgreatest : greatestExponent = 971 := rfl
      refine ⟨⟨?_, ?_, .inr ?_⟩, ?_⟩
      · change (1#1 ++ unpackMantissa b).toNat < 2 ^ 53
        omega
      · omega
      · change 2 ^ 52 ≤ (1#1 ++ unpackMantissa b).toNat
        omega
      · omega

/-! ## Signs -/

/-- The number of a sign. -/
def signOf : Sign → ℚ
  | .positive => 1
  | .negative => -1

theorem cast_apply (s : Sign) (m : Nat) : ((s.apply m : ℤ) : ℚ) = signOf s * m := by
  cases s <;> simp [signOf, Sign.apply]

theorem abs_signOf (s : Sign) : |signOf s| = 1 := by
  cases s <;> simp [signOf]

/-- A finite double is a zero, or it has a mantissa and an exponent. -/
theorem unpack_of_value? {x : Float} {v : ℚ} (h : value? x = some v) :
    (∃ s, x.toModel.unpack = .zero s ∧ v = 0) ∨
      ∃ s m e, ∃ hm : 0 < m, x.toModel.unpack = .finite s m e hm ∧
        v = signOf s * (m * 2 ^ e) ∧ Canonical m e := by
  unfold value? at h
  cases hx : x.toModel.unpack with
  | zero s =>
    rw [hx] at h
    exact .inl ⟨s, rfl, (Option.some.inj h).symm⟩
  | finite s m e hm =>
    rw [hx] at h
    refine .inr ⟨s, m, e, hm, rfl, ?_, (canonical_of_unpack hx).1⟩
    rw [← Option.some.inj h, cast_apply, mul_assoc]
  | infinity s =>
    rw [hx] at h
    exact nomatch h
  | notANumber =>
    rw [hx] at h
    exact nomatch h

/-! ## Packing -/

theorem finite_congr {s : Sign} {m m' : Nat} {e e' : Int} {hm : 0 < m} (hmantissa : m = m')
    (hexponent : e = e') :
    UnpackedFloat.finite s m e hm = .finite s m' e' (hmantissa ▸ hm) := by
  subst hmantissa hexponent
  rfl

theorem unpack_subnormal {s : Sign} {v : BitVec 52} (hpos : 0 < v.toNat) :
    UnpackedFloat.unpack .binary64 (packComponents .binary64 s 0#11 v) =
      .finite s v.toNat leastExponent hpos := by
  have hv : v ≠ 0#52 := fun h => Nat.ne_of_gt hpos (congrArg BitVec.toNat h)
  simp only [UnpackedFloat.unpack, UnpackedFloat.unpackExponent_packComponents,
    UnpackedFloat.unpackMantissa_packComponents, UnpackedFloat.unpackSign_packComponents,
    UnpackedFloat.Sign.ofBitVec_toBitVec]
  rw [if_neg (by decide), if_pos trivial, dif_neg hv]
  rfl

theorem unpack_normal {s : Sign} {e : BitVec 11} {v : BitVec 52} (hzero : e ≠ 0#11)
    (hones : e ≠ -1#11) :
    UnpackedFloat.unpack .binary64 (packComponents .binary64 s e v) =
      .finite s (2 ^ 52 + v.toNat) (e.toNat - 1075) (by omega) := by
  simp only [UnpackedFloat.unpack, UnpackedFloat.unpackExponent_packComponents,
    UnpackedFloat.unpackMantissa_packComponents, UnpackedFloat.unpackSign_packComponents,
    UnpackedFloat.Sign.ofBitVec_toBitVec]
  rw [if_neg hones, if_neg hzero]
  exact finite_congr (toNat_implicit_append v) rfl

theorem pack_overflow {s : Sign} {m : Nat} {e : Int} {hm : 0 < m} (he : greatestExponent < e) :
    UnpackedFloat.pack .binary64 (.finite s m e hm) =
      UnpackedFloat.packedInfinity .binary64 s := by
  have hgreatest : greatestExponent = 971 := rfl
  have hbiased : 2 ^ 11 ≤ (e + 1023 + 52).toNat + 1 := by omega
  exact if_pos hbiased

theorem unpack_pack_normal {s : Sign} {m : Nat} {e : Int} (hm : 0 < m) (hlow : 2 ^ 52 ≤ m)
    (hlt : m < 2 ^ 53) (hleast : leastExponent ≤ e) (hgreatest : e ≤ greatestExponent) :
    UnpackedFloat.unpack .binary64 (UnpackedFloat.pack .binary64 (.finite s m e hm)) =
      .finite s m e hm := by
  have hlog : m.log2 = 52 := (Nat.log2_eq_iff (Nat.ne_of_gt hm)).mpr ⟨hlow, hlt⟩
  have hleast' : leastExponent = -1074 := rfl
  have hgreatest' : greatestExponent = 971 := rfl
  have hfield : (BitVec.ofNat 11 (e + 1075).toNat).toNat = (e + 1075).toNat := by
    rw [BitVec.toNat_ofNat]
    omega
  have hzero : BitVec.ofNat 11 (e + 1075).toNat ≠ 0#11 := by
    intro h
    have hnat : (e + 1075).toNat = 0 := hfield.symm.trans (congrArg BitVec.toNat h)
    omega
  have hones : BitVec.ofNat 11 (e + 1075).toNat ≠ -1#11 := by
    intro h
    have hnat : (e + 1075).toNat = 2047 := hfield.symm.trans (congrArg BitVec.toNat h)
    omega
  rw [pack_finite hm (e + 1075).toNat (by omega) (by omega), if_pos (by omega),
    unpack_normal hzero hones]
  refine finite_congr ?_ ?_
  · rw [BitVec.toNat_ofNat]
    omega
  · omega

theorem unpack_pack_subnormal {s : Sign} {m : Nat} (hm : 0 < m) (hlt : m < 2 ^ 52) :
    UnpackedFloat.unpack .binary64
        (UnpackedFloat.pack .binary64 (.finite s m leastExponent hm)) =
      .finite s m leastExponent hm := by
  have hlog : m.log2 < 52 := (Nat.log2_lt (Nat.ne_of_gt hm)).mpr hlt
  have hfraction : (BitVec.ofNat 52 m).toNat = m := by
    rw [BitVec.toNat_ofNat, Nat.mod_eq_of_lt hlt]
  rw [pack_finite hm 1 rfl (by decide), if_neg (by omega),
    unpack_subnormal (hfraction.symm ▸ hm : 0 < (BitVec.ofNat 52 m).toNat)]
  exact finite_congr hfraction rfl

/-- **What packing a canonical form gives**: the form back, or an infinity. -/
theorem unpack_pack_finite {s : Sign} {m : Nat} {e : Int} (hm : 0 < m) (h : Canonical m e) :
    (Float.Model.pack (.finite s m e hm)).unpack =
      if e ≤ greatestExponent then .finite s m e hm else .infinity s := by
  change UnpackedFloat.unpack .binary64 (UnpackedFloat.pack .binary64 (.finite s m e hm)) = _
  by_cases he : e ≤ greatestExponent
  · rw [if_pos he]
    by_cases hnormal : 2 ^ 52 ≤ m
    · exact unpack_pack_normal hm hnormal h.mantissa_lt h.least_le he
    · obtain rfl := h.full.resolve_right hnormal
      exact unpack_pack_subnormal hm (Nat.not_le.mp hnormal)
  · rw [if_neg he, pack_overflow (Int.not_le.mp he)]
    cases s <;> rfl

/-! ## Bits of magnitudes -/

theorem toNat_packComponents (e : BitVec 11) (v : BitVec 52) :
    (packComponents .binary64 .positive e v).toNat = e.toNat * 2 ^ 52 + v.toNat := by
  have hsign : (Sign.positive.toBitVec ++ e).toNat = e.toNat := by
    rw [BitVec.toNat_append]
    change 0 <<< 11 ||| e.toNat = e.toNat
    simp
  rw [packComponents, BitVec.toNat_append, hsign, ← Nat.shiftLeft_add_eq_or_of_lt v.isLt,
    Nat.shiftLeft_eq]

theorem Magnitude.toBits_eq {x : Magnitude} (hm : 0 < x.mantissa)
    (h : Canonical x.mantissa x.exponent) :
    x.toBits false = UInt64.ofBitVec
      (UnpackedFloat.pack .binary64 (.finite .positive x.mantissa x.exponent hm)) := by
  have hlt := h.mantissa_lt
  have hle := h.least_le
  have hleast : leastExponent = -1074 := rfl
  have hgreatest : greatestExponent = 971 := rfl
  have hpow : Nat.pow 2 52 = 2 ^ 52 := rfl
  rw [← UInt64.toNat_inj]
  change _ = (UnpackedFloat.pack .binary64 (.finite .positive x.mantissa x.exponent hm)).toNat
  rw [toBits, if_neg Bool.false_ne_true, UInt64.toNat_ofNat', hpow]
  by_cases hnormal : 2 ^ 52 ≤ x.mantissa
  · have hlog : x.mantissa.log2 = 52 := (Nat.log2_eq_iff (Nat.ne_of_gt hm)).mpr ⟨hnormal, hlt⟩
    rw [if_neg (Nat.not_lt.mpr hnormal)]
    by_cases he : x.exponent ≤ greatestExponent
    · rw [if_neg (show ¬x.exponent > 971 by omega),
        pack_finite hm (x.exponent + 1075).toNat (by omega) (by omega), if_pos (by omega),
        toNat_packComponents, BitVec.toNat_ofNat, BitVec.toNat_ofNat]
      omega
    · rw [if_pos (show x.exponent > 971 by omega), pack_overflow (Int.not_le.mp he)]
      rfl
  · have hsub : x.mantissa < 2 ^ 52 := Nat.not_le.mp hnormal
    have hlog : x.mantissa.log2 < 52 := (Nat.log2_lt (Nat.ne_of_gt hm)).mpr hsub
    have hexponent := h.full.resolve_right hnormal
    rw [if_pos hsub, pack_finite hm 1 (by omega) (by decide), if_neg (by omega),
      toNat_packComponents, BitVec.toNat_ofNat, BitVec.toNat_ofNat]
    omega

theorem Magnitude.unpack_ofBits_toBits {x : Magnitude} (hm : 0 < x.mantissa)
    (h : Canonical x.mantissa x.exponent) :
    (Float.ofBits (x.toBits false)).toModel.unpack =
      if x.exponent ≤ greatestExponent then .finite .positive x.mantissa x.exponent hm
      else .infinity .positive := by
  have hdouble : Float.ofBits (x.toBits false) =
      ⟨.pack (.finite .positive x.mantissa x.exponent hm)⟩ := by
    rw [toBits_eq hm h]
    exact float_ofBits_toBits ⟨.pack (.finite .positive x.mantissa x.exponent hm)⟩
  rw [hdouble]
  exact unpack_pack_finite hm h

theorem Magnitude.unpack_ofBits_toBits_zero {x : Magnitude} (hm : x.mantissa = 0) :
    (Float.ofBits (x.toBits false)).toModel.unpack = .zero .positive := by
  have hbits : x.toBits false = 0 := by
    rw [toBits, hm]
    rfl
  rw [hbits]
  rfl

/-- **The double of a magnitude** has its mantissa and stands for it. -/
theorem Magnitude.value?_ofBits_toBits {x : Magnitude} (h : Canonical x.mantissa x.exponent)
    (he : x.exponent ≤ greatestExponent) :
    value? (Float.ofBits (x.toBits false)) = some ((x.mantissa : ℚ) * 2 ^ x.exponent) ∧
      significand (Float.ofBits (x.toBits false)).toModel.unpack = x.mantissa := by
  rcases Nat.eq_zero_or_pos x.mantissa with hm | hm
  · rw [value?, unpack_ofBits_toBits_zero hm, hm]
    exact ⟨by simp [unpackedValue?], rfl⟩
  · rw [value?, unpack_ofBits_toBits hm h, if_pos he]
    exact ⟨rfl, rfl⟩

theorem ext_unpack {x y : Float} (h : x.toModel.unpack = y.toModel.unpack) : x = y := by
  have hpack : ∀ z : Float, z = ⟨.pack z.toModel.unpack⟩ := fun z => (float_ofBits_toBits z).symm
  rw [hpack x, hpack y, h]

theorem Magnitude.ofBits_toBits_overflow {x : Magnitude} (h : Canonical x.mantissa x.exponent)
    (he : greatestExponent < x.exponent) : Float.ofBits (x.toBits false) = infinity := by
  have hleast : leastExponent < greatestExponent := by decide
  have hfull := h.full.resolve_left (ne_of_gt (hleast.trans he))
  have hm : 0 < x.mantissa := Nat.lt_of_lt_of_le (by decide) hfull
  refine ext_unpack ?_
  rw [unpack_ofBits_toBits hm h, if_neg (not_le.mpr he)]
  rfl

end ExperimentQuery.Decimal
