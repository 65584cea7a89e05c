import ExperimentQuery.Proofs.Decimal.Digits
import Mathlib

/-!
# The characters of numbers

A text that is read as a number has visible characters of ASCII only: digits and a point, signs and
the mark of an exponent, or the letters of a name.

* `isVisible`, `AllVisible`: visible characters;
* `lower_of_namedBits?`: the names that are read;
* `allVisible_of_numeral?`, **`allVisible_of_readBits?`**: numerals and numbers.
-/

namespace ExperimentQuery.Decimal

/-! ## Visible characters -/

/-- Whether a character is a visible one of ASCII. -/
def isVisible (c : Char) : Bool := 32 < c.toNat && c.toNat < 127

theorem isVisible_of_isDigit {c : Char} (h : c.isDigit) : isVisible c := by
  simp only [Char.isDigit, Bool.and_eq_true, decide_eq_true_eq, ge_iff_le,
    UInt32.le_iff_toNat_le] at h
  have hlow : 48 ≤ c.toNat := h.1
  have hhigh : c.toNat ≤ 57 := h.2
  simp only [isVisible, Bool.and_eq_true, decide_eq_true_eq]
  omega

theorem isVisible_of_isAlpha {c : Char} (h : c.isAlpha) : isVisible c := by
  simp only [Char.isAlpha, Char.isUpper, Char.isLower, Bool.or_eq_true, Bool.and_eq_true,
    decide_eq_true_eq, ge_iff_le, UInt32.le_iff_toNat_le] at h
  have hrange : 65 ≤ c.toNat ∧ c.toNat ≤ 90 ∨ 97 ≤ c.toNat ∧ c.toNat ≤ 122 := h
  simp only [isVisible, Bool.and_eq_true, decide_eq_true_eq]
  omega

theorem isAlpha_of_toLower {c : Char} (h : c.toLower.isAlpha) : c.isAlpha := by
  rw [Char.toLower] at h
  split at h
  · next hupper =>
    have hisUpper : c.isUpper := by
      rw [Char.isUpper, decide_eq_true_eq]
      exact hupper
    rw [Char.isAlpha, hisUpper, Bool.true_or]
  · exact h

/-- The characters of a text are visible. -/
def AllVisible (cs : List Char) : Prop := ∀ c ∈ cs, isVisible c

theorem allVisible_nil : AllVisible [] := fun _ h => nomatch h

theorem allVisible_cons {c : Char} {cs : List Char} (hc : isVisible c) (hcs : AllVisible cs) :
    AllVisible (c :: cs) := by
  intro d hd
  rcases List.mem_cons.mp hd with rfl | hd
  · exact hc
  · exact hcs d hd

/-! ## Numerals -/

theorem allVisible_of_spanDigits {cs : List Char} (h : AllVisible (spanDigits cs).2) :
    AllVisible cs := by
  intro c hc
  rw [← append_spanDigits cs] at hc
  rcases List.mem_append.mp hc with hc | hc
  · exact isVisible_of_isDigit (isDigit_of_mem_spanDigits cs c hc)
  · exact h c hc

theorem allVisible_of_exponent? {cs : List Char} (h : (exponent? cs).isSome) :
    AllVisible cs := by
  unfold exponent? at h
  split at h
  · exact allVisible_nil
  split at h
  · next mark rest hmark =>
    refine allVisible_cons (by rcases hmark with rfl | rfl <;> rfl) ?_
    dsimp only at h
    have hdigits {ds : List Char} {e : Option Int}
        (h : (if ds ≠ [] ∧ ds.all Char.isDigit then e else none).isSome) : AllVisible ds := by
      split at h
      · next hds => exact fun c hc => isVisible_of_isDigit (List.all_eq_true.mp hds.2 c hc)
      · cases h
    split at h
    · next ds => exact allVisible_cons rfl (hdigits h)
    · next ds => exact allVisible_cons rfl (hdigits h)
    · exact hdigits h
  · cases h

theorem allVisible_of_numeral? {cs : List Char} (h : (numeral? cs).isSome) : AllVisible cs := by
  unfold numeral? at h
  refine allVisible_of_spanDigits ?_
  dsimp only at h
  split at h
  · next rest hrest =>
    rw [hrest]
    refine allVisible_cons rfl (allVisible_of_spanDigits ?_)
    split at h
    · cases h
    · rw [Option.isSome_map] at h
      exact allVisible_of_exponent? h
  · split at h
    · cases h
    · rw [Option.isSome_map] at h
      exact allVisible_of_exponent? h

/-! ## Names -/

theorem lower_of_namedBits? {cs : List Char} {bits : UInt64} (h : namedBits? cs = some bits) :
    bits = infinityBits ∧ (cs.map Char.toLower = "inf".toList ∨
        cs.map Char.toLower = "infinity".toList) ∨
      bits = nanBits ∧ cs.map Char.toLower = "nan".toList := by
  have hword (name : String) (hname : String.ofList (cs.map Char.toLower) = name) :
      cs.map Char.toLower = name.toList := by rw [← hname, String.toList_ofList]
  unfold namedBits? at h
  dsimp only at h
  split at h
  · next hname =>
    exact .inl ⟨(Option.some.inj h).symm, hname.imp (hword _) (hword _)⟩
  split at h
  · next hname =>
    exact .inr ⟨(Option.some.inj h).symm, hword _ hname⟩
  · cases h

theorem allVisible_of_lower {cs : List Char} {name : String}
    (hname : cs.map Char.toLower = name.toList) (h : name.toList.all Char.isAlpha) :
    AllVisible cs := by
  intro c hc
  have hmem : c.toLower ∈ name.toList := hname ▸ List.mem_map_of_mem hc
  exact isVisible_of_isAlpha (isAlpha_of_toLower (List.all_eq_true.mp h _ hmem))

theorem allVisible_of_namedBits? {cs : List Char} (h : (namedBits? cs).isSome) :
    AllVisible cs := by
  obtain ⟨bits, hbits⟩ := Option.isSome_iff_exists.mp h
  rcases lower_of_namedBits? hbits with ⟨-, hname | hname⟩ | ⟨-, hname⟩ <;>
    exact allVisible_of_lower hname (by decide)

/-! ## Numbers -/

theorem allVisible_of_readUnsigned? {negative : Bool} {cs : List Char}
    (h : (readUnsigned? negative cs).isSome) : AllVisible cs := by
  unfold readUnsigned? at h
  split at h
  · next n hnumeral => exact allVisible_of_numeral? (by rw [hnumeral]; rfl)
  · exact allVisible_of_namedBits? (Option.isSome_map ▸ h)

/-- **What is read as a number is visible.** -/
theorem allVisible_of_readBits? {text : String} (h : (readBits? text).isSome) :
    AllVisible text.toList := by
  unfold readBits? at h
  split at h
  · next cs hcs => exact hcs ▸ allVisible_cons rfl (allVisible_of_readUnsigned? h)
  · next cs hcs => exact hcs ▸ allVisible_cons rfl (allVisible_of_readUnsigned? h)
  · exact allVisible_of_readUnsigned? h

theorem allVisible_of_read? {cs : List Char} (h : (read? (String.ofList cs)).isSome) :
    AllVisible cs := by
  rw [read?, Option.isSome_map] at h
  simpa using allVisible_of_readBits? h

end ExperimentQuery.Decimal
