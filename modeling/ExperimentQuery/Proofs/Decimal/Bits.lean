import ExperimentQuery.Decimal.Layout
import ExperimentQuery.Sample
import Mathlib

/-!
# The bits of doubles

A double is given by its bits: a sign, an exponent field and a fraction field. Of the bit patterns
for a value that is no number only one is in use.

* `packComponents_parts`: the parts of a bit pattern make it up;
* `pack_normal`, `pack_subnormal`: the bits of a finite double;
* **`float_ofBits_toBits`**, `Sample.value_ofFloat`: a double from its bits;
* `mantissa_of_beq_zero`: a zero has no mantissa;
* `nan_compare`, `compare_nan`: what is no number compares with nothing;
* `compare_swap`, `le_iff_not_lt`: numbers compare both ways.
-/

namespace ExperimentQuery

open Float.Model (UnpackedFloat Format)
open Float.Model.UnpackedFloat (Sign packComponents unpackSign unpackExponent unpackMantissa)

/-! ## The parts of a bit pattern -/

theorem toBitVec_ofBitVec (v : BitVec 1) : (Sign.ofBitVec v).toBitVec = v := by
  revert v
  decide

theorem packComponents_parts (b : BitVec Format.binary64.numBits) :
    packComponents .binary64 (Sign.ofBitVec (unpackSign b)) (unpackExponent b)
      (unpackMantissa b) = b := by
  simp only [packComponents, toBitVec_ofBitVec, unpackSign, unpackExponent, unpackMantissa,
    BitVec.extractLsb]
  ext i hi
  grind

theorem packComponents_eq {b : BitVec Format.binary64.numBits} {e : BitVec 11} {v : BitVec 52}
    (he : unpackExponent b = e) (hv : unpackMantissa b = v) :
    packComponents .binary64 (Sign.ofBitVec (unpackSign b)) e v = b := by
  rw [← he, ← hv]
  exact packComponents_parts b

theorem toNat_implicit_append (v : BitVec 52) : (1#1 ++ v).toNat = 2 ^ 52 + v.toNat := by
  rw [BitVec.toNat_append, ← Nat.shiftLeft_add_eq_or_of_lt v.isLt]
  rfl

theorem pack_finite {s : Sign} {m : Nat} {e : Int} (hm : 0 < m) (biased : Nat)
    (he : (e + 1023 + 52).toNat = biased) (hlt : biased + 1 < 2 ^ 11) :
    UnpackedFloat.pack .binary64 (.finite s m e hm) =
      if m.log2 + 1 = 53 then
        packComponents .binary64 s (BitVec.ofNat 11 biased) (BitVec.ofNat 52 m)
      else packComponents .binary64 s 0#11 (BitVec.ofNat 52 m) := by
  rw [← he] at hlt ⊢
  exact if_neg (Nat.not_le.mpr hlt)

theorem pack_normal {s : Sign} {e : BitVec 11} {v : BitVec 52} (hzero : e ≠ 0#11)
    (hones : e ≠ -1#11) (hpos : 0 < (1#1 ++ v).toNat) :
    UnpackedFloat.pack .binary64 (.finite s (1#1 ++ v).toNat (e.toNat - (1023 + 52)) hpos) =
      packComponents .binary64 s e v := by
  have hlow : e.toNat ≠ 0 := fun h => hzero (BitVec.toNat_inj.mp h)
  have hhigh : e.toNat ≠ 2047 := fun h => hones (BitVec.toNat_inj.mp h)
  have he := e.isLt
  have hv := v.isLt
  have hmantissa := toNat_implicit_append v
  have hne : (1#1 ++ v).toNat ≠ 0 := Nat.ne_of_gt hpos
  have hle : 52 ≤ (1#1 ++ v).toNat.log2 := (Nat.le_log2 hne).mpr (by omega)
  have hlt : (1#1 ++ v).toNat.log2 < 53 := (Nat.log2_lt hne).mpr (by omega)
  have hfraction : BitVec.ofNat 52 (1#1 ++ v).toNat = v := by
    rw [← BitVec.toNat_inj, BitVec.toNat_ofNat, hmantissa]
    omega
  rw [pack_finite hpos e.toNat (by omega) (by omega), if_pos (by omega), hfraction,
    BitVec.ofNat_toNat, BitVec.setWidth_eq]

theorem pack_subnormal {s : Sign} {v : BitVec 52} (hpos : 0 < v.toNat) :
    UnpackedFloat.pack .binary64 (.finite s v.toNat ((0 : Nat) - (1023 + 52) + 1) hpos) =
      packComponents .binary64 s 0#11 v := by
  have hlt : v.toNat.log2 < 52 := (Nat.log2_lt (Nat.ne_of_gt hpos)).mpr v.isLt
  rw [pack_finite hpos 1 rfl (by decide), if_neg (by omega), BitVec.ofNat_toNat,
    BitVec.setWidth_eq]

/-- A valid bit pattern is made up again from what it stands for. -/
theorem pack_unpack {b : BitVec Format.binary64.numBits} (hb : Format.binary64.Valid b) :
    UnpackedFloat.pack .binary64 (UnpackedFloat.unpack .binary64 b) = b := by
  unfold UnpackedFloat.unpack
  by_cases hones : unpackExponent b = -1#11
  · rw [if_pos hones]
    by_cases hv : unpackMantissa b = 0#52
    · rw [if_pos hv]
      exact packComponents_eq hones hv
    · rw [if_neg hv]
      exact (hb.eq_packedNaN hones hv).symm
  · rw [if_neg hones]
    by_cases hzero : unpackExponent b = 0#11
    · rw [if_pos hzero]
      by_cases hv : unpackMantissa b = 0#52
      · rw [dif_pos hv]
        exact packComponents_eq hzero hv
      · rw [dif_neg hv]
        have hpos : 0 < (unpackMantissa b).toNat :=
          Nat.pos_of_ne_zero fun h => hv (BitVec.toNat_inj.mp h)
        have hexponent : (unpackExponent b).toNat = 0 := congrArg BitVec.toNat hzero
        rw [hexponent]
        exact (pack_subnormal hpos).trans (packComponents_eq hzero rfl)
    · rw [if_neg hzero]
      exact (pack_normal hzero hones _).trans (packComponents_parts b)

/-- **A double is what its bits stand for.** -/
theorem float_ofBits_toBits (x : Float) : Float.ofBits x.toBits = x := by
  obtain ⟨bits, hvalid⟩ := x
  have hpack := pack_unpack hvalid
  simp only [Float.ofBits, Float.toBits, Float.Model.ofBits, Float.Model.pack, hpack]

theorem Sample.value_ofFloat (x : Float) : (Sample.ofFloat x).value = x := float_ofBits_toBits x

/-! ## Zeros -/

theorem exponentField_eq (b : BitVec Format.binary64.numBits) :
    Decimal.exponentField (UInt64.ofBitVec b) = (unpackExponent b).toNat := by
  change _ = (BitVec.extractLsb 62 52 b).toNat
  rw [BitVec.extractLsb_toNat]
  rfl

theorem fractionField_eq (b : BitVec Format.binary64.numBits) :
    Decimal.fractionField (UInt64.ofBitVec b) = (unpackMantissa b).toNat := by
  change _ = (BitVec.extractLsb 51 0 b).toNat
  rw [BitVec.extractLsb_toNat]
  rfl

theorem fields_of_unpack_zero {b : BitVec Format.binary64.numBits} {s : Sign}
    (h : UnpackedFloat.unpack .binary64 b = .zero s) :
    unpackExponent b = 0#11 ∧ unpackMantissa b = 0#52 := by
  unfold UnpackedFloat.unpack at h
  dsimp only at h
  split at h
  · split at h <;> cases h
  · split at h
    · split at h
      · exact ⟨‹_›, ‹_›⟩
      · cases h
    · cases h

theorem eq_zero_of_compare {u : UnpackedFloat} {s : Sign} (h : u.compare (.zero s) = some .eq) :
    ∃ t, u = .zero t := by
  cases u with
  | zero t => exact ⟨t, rfl⟩
  | infinity t => cases t <;> cases h
  | notANumber => cases h
  | finite t m e hm => cases t <;> cases h

theorem mantissa_of_beq_zero {x : Float} (h : (x == 0) = true) :
    (Decimal.Magnitude.ofBits x.toBits).mantissa = 0 := by
  have hzero : (0 : Float).toModel.unpack = .zero .positive := by rfl
  have hcompare : x.toModel.unpack.compare (.zero .positive) = some .eq := by
    rw [← hzero]
    exact eq_of_beq h
  obtain ⟨s, hs⟩ := eq_zero_of_compare hcompare
  obtain ⟨hexponent, hmantissa⟩ := fields_of_unpack_zero hs
  have hfield : Decimal.exponentField x.toBits = 0 :=
    (exponentField_eq x.toBits.toBitVec).trans (congrArg BitVec.toNat hexponent)
  rw [Decimal.Magnitude.ofBits, if_pos hfield]
  exact (fractionField_eq x.toBits.toBitVec).trans (congrArg BitVec.toNat hmantissa)

/-! ## What is no number -/

theorem ofBits_withSign_nan (negative : Bool) :
    Float.ofBits (Decimal.withSign negative Decimal.nanBits) = Decimal.nan := by
  cases negative <;> rfl

theorem not_lt_of_compare {x y : Float}
    (h : x.toModel.unpack.compare y.toModel.unpack = none) : ¬x < y := by
  intro hlt
  have hcompare : (x.toModel.unpack.compare y.toModel.unpack == some .lt) = true :=
    of_decide_eq_true hlt
  rw [h] at hcompare
  cases hcompare

theorem not_le_of_compare {x y : Float}
    (h : x.toModel.unpack.compare y.toModel.unpack = none) : ¬x ≤ y := by
  intro hle
  have hcompare : (x.toModel.unpack.compare y.toModel.unpack).any (·.isLE) = true :=
    of_decide_eq_true hle
  rw [h] at hcompare
  cases hcompare

theorem unpack_nan : Decimal.nan.toModel.unpack = .notANumber := by rfl

theorem nan_compare (x : Float) :
    Decimal.nan.toModel.unpack.compare x.toModel.unpack = none := by
  rw [unpack_nan]
  cases x.toModel.unpack <;> rfl

theorem compare_nan (x : Float) :
    x.toModel.unpack.compare Decimal.nan.toModel.unpack = none := by
  rw [unpack_nan]
  cases x.toModel.unpack <;> rfl

/-! ## Order -/

theorem lt_iff_compare {x y : Float} :
    x < y ↔ x.toModel.unpack.compare y.toModel.unpack = some .lt := by
  have hdecide : x < y ↔ (x.toModel.unpack.compare y.toModel.unpack == some .lt) = true :=
    decide_eq_true_iff
  rw [hdecide, beq_iff_eq]

theorem le_iff_compare {x y : Float} :
    x ≤ y ↔ (x.toModel.unpack.compare y.toModel.unpack).any (·.isLE) := decide_eq_true_iff

theorem compare_swap (u v : UnpackedFloat) : v.compare u = (u.compare v).map Ordering.swap := by
  cases u with
  | notANumber => cases v <;> rfl
  | infinity s =>
    cases v with
    | infinity t => cases s <;> cases t <;> rfl
    | _ => cases s <;> rfl
  | zero s =>
    cases v with
    | infinity t => cases t <;> rfl
    | finite t => cases t <;> rfl
    | _ => rfl
  | finite s m e hm =>
    cases v with
    | infinity t => cases s <;> cases t <;> rfl
    | finite t m' e' hm' =>
      cases s <;> cases t <;>
        simp [UnpackedFloat.compare, Ordering.swap_then, Int.compare_swap, Nat.compare_swap]
    | _ => cases s <;> rfl

theorem compare_eq_none_iff {u v : UnpackedFloat} :
    u.compare v = none ↔ u.isNaN ∨ v.isNaN := by
  cases u with
  | notANumber => simp [UnpackedFloat.compare, UnpackedFloat.isNaN]
  | infinity s | zero s | finite s =>
    cases v with
    | notANumber => simp [UnpackedFloat.compare, UnpackedFloat.isNaN]
    | infinity t | zero t | finite t =>
      cases s <;> cases t <;> simp [UnpackedFloat.compare, UnpackedFloat.isNaN]

/-- Of two numbers one is below the other or not above it. -/
theorem le_iff_not_lt {x y : Float} : y ≤ x ↔ ¬x < y ∧ ¬x.isNaN ∧ ¬y.isNaN := by
  have hnan : x.toModel.unpack.compare y.toModel.unpack = none ↔ x.isNaN ∨ y.isNaN :=
    compare_eq_none_iff
  rw [lt_iff_compare, le_iff_compare, compare_swap x.toModel.unpack, ← not_or, ← hnan]
  cases x.toModel.unpack.compare y.toModel.unpack with
  | none => simp
  | some o => cases o <;> simp

end ExperimentQuery
