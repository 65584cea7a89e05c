import ExperimentQuery.Proofs.Decimal.Digits
import ExperimentQuery.Proofs.Decimal.Nearest
import ExperimentQuery.Proofs.Decimal.Visible
import ExperimentQuery.Proofs.Plan.Comparisons

/-!
# The grammar of aggregate filters

Without its white space, an aggregate filter is a list of parts between commas. Each part that is
not empty must be the sign of an operator and a decimal numeral, which has digits on both sides of
its point if it has a point. Digits of any script make up the form of a numeral, but only those of
ASCII are then read as a number. The filter reads as the comparisons of its parts, or it fails with
the first part that is of no such form.

* `CompareOp.sign`, `DecimalText`: how operators and numerals are written;
* `DecimalText.value`, `DecimalText.nearestTo_double`: the value of a numeral, and its double;
* `hasNumeralForm_iff`, `decimalNumeral?_eq_some_iff`: the form of a numeral, and its value;
* `compareOp?_sign`: operators are read back;
* `IsComparison`, `Spells`: the parts of the form, and the comparisons they spell;
* `mapM_eq_error`: the first error of many readings;
* **`parseComparisons_follows_grammar`**: what an aggregate filter reads as.
-/

namespace ExperimentQuery

open Decimal (spanDigits digitsValue decimalFloat NearestTo)

/-! ## Numerals -/

/-- A decimal numeral: digits, and digits after a point if it has a point. -/
structure DecimalText where
  whole : List Char
  places : List Char
  whole_ne_nil : whole ≠ []
  isDigit_whole : ∀ c ∈ whole, c.isDigit
  isDigit_places : ∀ c ∈ places, c.isDigit

namespace DecimalText

/-- The text of a numeral. -/
def text (n : DecimalText) : List Char :=
  if n.places = [] then n.whole else n.whole ++ '.' :: n.places

/-- The number that a numeral stands for. -/
def value (n : DecimalText) : ℚ :=
  (Nat.ofDigitChars 10 (n.whole ++ n.places) 0 : ℕ) / 10 ^ n.places.length

/-- The double that a numeral is read as. -/
def double (n : DecimalText) : Float :=
  decimalFloat false (digitsValue (n.whole ++ n.places)) (-(n.places.length : Int))

/-- **The double of a numeral** is the nearest to its value. -/
theorem nearestTo_double (n : DecimalText) : NearestTo n.value n.double := by
  have hvalue : n.value =
      (digitsValue (n.whole ++ n.places) : ℕ) * 10 ^ (-(n.places.length : Int)) := by
    rw [zpow_neg, zpow_natCast, ← div_eq_mul_inv]
    rfl
  rw [hvalue]
  exact Decimal.nearestTo_decimalFloat _ _

theorem exists_cons_text (n : DecimalText) : ∃ c cs, n.text = c :: cs ∧ c.isDigit := by
  obtain ⟨c, cs, hwhole⟩ := List.exists_cons_of_ne_nil n.whole_ne_nil
  have hc : c.isDigit := n.isDigit_whole c (hwhole ▸ List.mem_cons_self)
  unfold text
  rw [hwhole]
  split_ifs
  · exact ⟨c, cs, rfl, hc⟩
  · exact ⟨c, cs ++ '.' :: n.places, rfl, hc⟩

end DecimalText

theorem spanDigits_of_forall {ds : List Char} (h : ∀ c ∈ ds, c.isDigit) :
    spanDigits ds = (ds, []) := by
  have hend : EndsDigits [] := trivial
  simpa using spanDigits_append h hend

theorem numeral?_text (n : DecimalText) :
    Decimal.numeral? n.text =
      some ⟨digitsValue (n.whole ++ n.places), -(n.places.length : Int)⟩ := by
  obtain ⟨whole, places, hne, hwhole, hplaces⟩ := n
  rw [Decimal.numeral?, DecimalText.text]
  cases places with
  | nil =>
    rw [if_pos rfl, spanDigits_of_forall hwhole]
    simp [hne, Decimal.exponent?]
  | cons d places =>
    have hpoint : EndsDigits ('.' :: d :: places) := rfl
    rw [if_neg (List.cons_ne_nil d places), spanDigits_append hwhole hpoint]
    simp [spanDigits_of_forall hplaces, Decimal.exponent?]

theorem read?_text (n : DecimalText) : Decimal.read? (String.ofList n.text) = some n.double := by
  obtain ⟨c, cs, htext, hc⟩ := n.exists_cons_text
  have hsign : c ≠ '-' ∧ c ≠ '+' := by
    constructor <;> rintro rfl <;> cases hc
  have hbits : Decimal.readBits? (String.ofList n.text) = Decimal.readUnsigned? false n.text := by
    rw [Decimal.readBits?, String.toList_ofList, htext]
    split <;> simp_all
  rw [Decimal.read?, hbits, Decimal.readUnsigned?, numeral?_text]
  rfl

/-! ### The form of a numeral -/

theorem isDecimalDigit_iff_of_isVisible {c : Char} (h : Decimal.isVisible c) :
    Unicode.isDecimalDigit c ↔ c.isDigit := by
  simp only [Decimal.isVisible, Bool.and_eq_true, decide_eq_true_eq] at h
  rw [Unicode.isDecimalDigit, if_pos (by omega)]

theorem isDecimalDigit_of_isDigit {c : Char} (h : c.isDigit) : Unicode.isDecimalDigit c :=
  (isDecimalDigit_iff_of_isVisible (Decimal.isVisible_of_isDigit h)).mpr h

theorem span_isDecimalDigit {ds : List Char} (hds : ∀ c ∈ ds, Unicode.isDecimalDigit c) :
    ds.span Unicode.isDecimalDigit = (ds, []) := by
  rw [List.span_eq_takeWhile_dropWhile, List.takeWhile_eq_self_iff.mpr hds,
    List.dropWhile_eq_nil_iff.mpr hds]

theorem span_isDecimalDigit_point {ds : List Char} (hds : ∀ c ∈ ds, Unicode.isDecimalDigit c)
    (rest : List Char) :
    (ds ++ '.' :: rest).span Unicode.isDecimalDigit = (ds, '.' :: rest) := by
  have hpoint : ¬Unicode.isDecimalDigit '.' := by decide
  rw [List.span_eq_takeWhile_dropWhile, List.takeWhile_append_of_pos hds,
    List.dropWhile_append_of_pos hds, List.takeWhile_cons_of_neg hpoint,
    List.dropWhile_cons_of_neg hpoint, List.append_nil]

/-- The form of a numeral leaves the script of its digits open. -/
theorem hasNumeralForm_iff {cs : List Char} :
    hasNumeralForm cs ↔ ∃ whole places, whole ≠ [] ∧
      cs = (if places = [] then whole else whole ++ '.' :: places) ∧
      (∀ c ∈ whole, Unicode.isDecimalDigit c) ∧ ∀ c ∈ places, Unicode.isDecimalDigit c := by
  constructor
  · intro h
    have hcs := List.takeWhile_append_dropWhile (p := Unicode.isDecimalDigit) (l := cs)
    have hwhole : ∀ c ∈ cs.takeWhile Unicode.isDecimalDigit, Unicode.isDecimalDigit c :=
      fun _ => List.mem_takeWhile_imp
    rw [hasNumeralForm, List.span_eq_takeWhile_dropWhile] at h
    split at h
    · cases h
    · next whole hempty heq =>
      obtain ⟨rfl, hrest⟩ := Prod.mk.inj heq
      rw [hrest, List.append_nil] at hcs
      exact ⟨_, [], hempty, hcs.symm, hwhole, by simp⟩
    · next whole places hempty heq =>
      obtain ⟨rfl, hrest⟩ := Prod.mk.inj heq
      rw [hrest] at hcs
      simp only [Bool.and_eq_true, decide_eq_true_eq] at h
      refine ⟨_, places, hempty, ?_, hwhole, List.all_eq_true.mp h.2⟩
      rw [if_neg h.1, hcs]
    · cases h
  · rintro ⟨whole, places, hne, rfl, hwhole, hplaces⟩
    rw [hasNumeralForm]
    split_ifs with hempty
    · rw [span_isDecimalDigit hwhole]
      simp
    · rw [span_isDecimalDigit_point hwhole]
      simp only [Bool.and_eq_true, decide_eq_true_eq]
      exact ⟨hempty, List.all_eq_true.mpr hplaces⟩

/-- **The texts that are read as numerals** are those with digits of ASCII alone. -/
theorem decimalNumeral?_eq_some_iff {cs : List Char} {x : Float} :
    decimalNumeral? cs = some x ↔ ∃ n : DecimalText, cs = n.text ∧ n.double = x := by
  rw [decimalNumeral?]
  constructor
  · intro h
    split at h
    · next hform =>
      obtain ⟨whole, places, hne, rfl, hwhole, hplaces⟩ := hasNumeralForm_iff.mp hform
      have hvisible := Decimal.allVisible_of_read? (Option.isSome_of_mem h)
      have hisDigit : ∀ c, c ∈ whole ∨ c ∈ places → c.isDigit := by
        rintro c (hc | hc)
        · have hc' := hvisible c (by split_ifs <;> simp [hc])
          exact (isDecimalDigit_iff_of_isVisible hc').mp (hwhole c hc)
        · rw [if_neg (List.ne_nil_of_mem hc)] at hvisible
          exact (isDecimalDigit_iff_of_isVisible (hvisible c (by simp [hc]))).mp (hplaces c hc)
      have hread := read?_text
        ⟨whole, places, hne, fun c hc => hisDigit c (.inl hc), fun c hc => hisDigit c (.inr hc)⟩
      exact ⟨_, rfl, Option.some.inj (hread.symm.trans h)⟩
    · cases h
  · rintro ⟨n, rfl, rfl⟩
    have hform : hasNumeralForm n.text := hasNumeralForm_iff.mpr
      ⟨n.whole, n.places, n.whole_ne_nil, rfl,
        fun c hc => isDecimalDigit_of_isDigit (n.isDigit_whole c hc),
        fun c hc => isDecimalDigit_of_isDigit (n.isDigit_places c hc)⟩
    rw [if_pos hform, read?_text]

/-! ## Operators -/

/-- How an operator is written. -/
def CompareOp.sign : CompareOp → List Char
  | .eq => ['=']
  | .ne => ['!', '=']
  | .lt => ['<']
  | .le => ['<', '=']
  | .gt => ['>']
  | .ge => ['>', '=']

theorem eq_of_compareOp? {part rest : List Char} {op : CompareOp}
    (h : compareOp? part = some (op, rest)) : part = op.sign ++ rest := by
  unfold compareOp? at h
  split at h <;> cases h <;> rfl

/-- No digit continues the sign of an operator to that of another one. -/
theorem compareOp?_sign (op : CompareOp) {c : Char} (hc : c.isDigit) (cs : List Char) :
    compareOp? (op.sign ++ c :: cs) = some (op, c :: cs) := by
  have hne : c ≠ '=' := by
    rintro rfl
    exact absurd hc (by decide)
  cases op <;> simp [CompareOp.sign, compareOp?, hne]

/-! ## Comparisons -/

/-- The part is the sign of an operator and a numeral. -/
def IsComparison (part : List Char) : Prop :=
  ∃ (op : CompareOp) (n : DecimalText), part = op.sign ++ n.text

/-- The part spells a comparison: the sign of its operator and a numeral whose value its number is
the nearest double to. -/
def Spells (part : List Char) (c : Comparison) : Prop :=
  ∃ n : DecimalText, part = c.op.sign ++ n.text ∧ NearestTo n.value c.value

theorem spells_of_comparison? {part : List Char} {c : Comparison} (h : comparison? part = some c) :
    Spells part c := by
  obtain ⟨⟨op, rest⟩, hop, h⟩ := Option.bind_eq_some_iff.mp h
  obtain ⟨x, hx, rfl⟩ := Option.map_eq_some_iff.mp h
  obtain ⟨n, rfl, rfl⟩ := decimalNumeral?_eq_some_iff.mp hx
  exact ⟨n, eq_of_compareOp? hop, n.nearestTo_double⟩

theorem isComparison_iff {part : List Char} : IsComparison part ↔ (comparison? part).isSome := by
  constructor
  · rintro ⟨op, n, rfl⟩
    obtain ⟨c, cs, htext, hc⟩ := n.exists_cons_text
    have hnumeral := decimalNumeral?_eq_some_iff.mpr ⟨n, rfl, rfl⟩
    rw [htext] at hnumeral
    rw [comparison?, htext, compareOp?_sign op hc, Option.bind_some]
    simp only [hnumeral, Option.map_some, Option.isSome_some]
  · intro h
    obtain ⟨c, hc⟩ := Option.isSome_iff_exists.mp h
    obtain ⟨n, hpart, -⟩ := spells_of_comparison? hc
    exact ⟨c.op, n, hpart⟩

instance : DecidablePred IsComparison := fun _ => decidable_of_iff _ isComparison_iff.symm

/-! ## Parts -/

theorem Text.splitOn_eq (sep : Char) (cs : List Char) : splitOn sep cs = cs.splitOn sep := by
  induction cs with
  | nil => rfl
  | cons c cs ih =>
    rw [splitOn, List.splitOn_cons_eq_if_modifyHead, ih]
    by_cases hc : c = sep
    · simp [hc]
    · rw [if_neg hc, if_neg (by simpa using hc)]
      obtain ⟨piece, pieces, hcs⟩ := List.exists_cons_of_ne_nil (List.splitOn_ne_nil sep cs)
      rw [hcs]
      rfl

theorem bind_eq_error {ε α β : Type} {x : Except ε α} {f : α → Except ε β} {e : ε} :
    (x >>= f) = .error e ↔ x = .error e ∨ ∃ a, x = .ok a ∧ f a = .error e := by
  cases x <;> simp [bind, Except.bind]

theorem isOk_iff {ε α : Type} {x : Except ε α} : x.isOk ↔ ∃ a, x = .ok a := by
  cases x <;> simp [Except.isOk, Except.toBool]

/-- **The first error of many readings**: what stands before it was read. -/
theorem mapM_eq_error {ε α β : Type} {f : α → Except ε β} {as : List α} {e : ε}
    (h : as.mapM f = .error e) :
    ∃ before a after, as = before ++ a :: after ∧ (∀ b ∈ before, (f b).isOk) ∧ f a = .error e := by
  induction as with
  | nil => exact nomatch h
  | cons a as ih =>
    rw [List.mapM_cons] at h
    rcases bind_eq_error.mp h with ha | ⟨b, ha, h⟩
    · exact ⟨[], a, as, rfl, by simp, ha⟩
    rcases bind_eq_error.mp h with has | ⟨bs, -, h⟩
    · obtain ⟨before, a', after, rfl, hbefore, ha'⟩ := ih has
      refine ⟨a :: before, a', after, rfl, List.forall_mem_cons.mpr ⟨?_, hbefore⟩, ha'⟩
      rw [ha]
      rfl
    · cases h

theorem isOk_requireComparison {part : List Char} :
    (requireComparison part).isOk ↔ IsComparison part := by
  rw [isComparison_iff, requireComparison]
  cases comparison? part <;> simp [Except.isOk, Except.toBool]

theorem requireComparison_eq_error {part : List Char} {bad : InvalidComparison}
    (h : requireComparison part = .error bad) :
    ¬IsComparison part ∧ bad.part = String.ofList part := by
  rw [isComparison_iff]
  unfold requireComparison at h
  cases hc : comparison? part with
  | none =>
    rw [hc] at h
    cases h
    exact ⟨Bool.false_ne_true, rfl⟩
  | some c =>
    rw [hc] at h
    cases h

theorem forall₂_spells_of_mapM {parts : List (List Char)} {cs : List Comparison}
    (h : parts.mapM requireComparison = .ok cs) : List.Forall₂ Spells parts cs := by
  have hmap := map_comparison?_of_mapM h
  rw [← List.forall₂_eq_eq_eq, List.forall₂_map_left_iff, List.forall₂_map_right_iff] at hmap
  exact hmap.imp fun _ _ => spells_of_comparison?

/-- **An aggregate filter reads as the comparisons of its parts** that are not empty, if all of them
are comparisons, and fails with the first of them that is none otherwise. -/
theorem parseComparisons_follows_grammar (filter : String) :
    let parts := ((filter.toList.filter fun c => !Unicode.isBlank c).splitOn ',').filter (· ≠ [])
    ((parseComparisons filter).isOk ↔ ∀ part ∈ parts, IsComparison part) ∧
      match parseComparisons filter with
      | .ok cs => List.Forall₂ Spells parts cs
      | .error bad => ∃ before part after, parts = before ++ part :: after ∧
          (∀ p ∈ before, IsComparison p) ∧ ¬IsComparison part ∧
          bad.part = String.ofList part := by
  intro parts
  have hparse : parseComparisons filter = parts.mapM requireComparison := by
    rw [parseComparisons, filterParts, Text.splitOn_eq, Text.compact]
  rw [hparse]
  cases hresult : parts.mapM requireComparison with
  | ok cs =>
    refine ⟨⟨fun _ part hpart => ?_, fun _ => rfl⟩, forall₂_spells_of_mapM hresult⟩
    have hmem := List.mem_map_of_mem (f := comparison?) hpart
    rw [map_comparison?_of_mapM hresult] at hmem
    obtain ⟨c, -, hc⟩ := List.mem_map.mp hmem
    exact isComparison_iff.mpr (hc ▸ rfl)
  | error bad =>
    obtain ⟨before, part, after, hparts, hbefore, hpart⟩ := mapM_eq_error hresult
    obtain ⟨hnot, htext⟩ := requireComparison_eq_error hpart
    have hall : ¬∀ part ∈ parts, IsComparison part :=
      fun h => hnot (h part (hparts ▸ List.mem_append_right _ List.mem_cons_self))
    refine ⟨⟨fun h => absurd h Bool.false_ne_true, fun h => absurd h hall⟩, before, part, after,
      hparts, fun p hp => isOk_requireComparison.mp (hbefore p hp), hnot, htext⟩

/-- White space inside of a numeral does not count, and any other separator is wrong. -/
example : parseComparisons "> 1 0,, =1_000, !" = .error ⟨"=1_000"⟩ := by rfl

end ExperimentQuery
