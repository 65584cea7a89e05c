import ExperimentQuery.Event
import ExperimentQuery.Proofs.Decimal.Bits
import ExperimentQuery.Proofs.Decimal.Visible
import ExperimentQuery.Proofs.Script.DecimalLiteral
import Mathlib

/-!
# Numbers in texts

A script and the interpreter both read numbers from texts, and by rules that are not quite the same.
A script takes a text of blanks for zero, has literals of other bases and one spelling of infinity,
and its blanks are not those of the interpreter. Every other text has the same number for both.

* `textNumber`: the number of a text in a script;
* `oneSided?`: the number that only one of the two sides finds in a word;
* `relates_word_iff`: which words both sides compare alike;
* `trimBy_eq_of_both`: a text whose ends are cut in two ways is a number for one side at most;
* **`relates_text_iff`**: which texts both sides compare alike.
-/

namespace ExperimentQuery.Script

open Decimal (decimalFloat numeral? spanDigits namedBits? readUnsigned? withSign infinityBits
  nanBits lower_of_namedBits? isVisible isVisible_of_isDigit isVisible_of_isAlpha AllVisible
  allVisible_nil allVisible_cons allVisible_of_numeral?)

/-! ## Reading numbers -/

/-- A text without the blanks at its ends. -/
def trimBy (blank : Char → Bool) (cs : List Char) : List Char :=
  ((cs.dropWhile blank).reverse.dropWhile blank).reverse

/-- White space of a script. -/
def isScriptBlank (c : Char) : Bool := c == '\ufeff' || (Unicode.isBlank c && c != '\x85')

/-- The base of a literal by its mark. -/
def base? (mark : Char) : Option Nat :=
  if mark = 'x' ∨ mark = 'X' then some 16
  else if mark = 'o' ∨ mark = 'O' then some 8
  else if mark = 'b' ∨ mark = 'B' then some 2
  else none

/-- The value of a digit in the bases beyond ten. -/
def digitValue (c : Char) : Nat :=
  if c.isDigit then c.toNat - '0'.toNat
  else if c.isAlpha then c.toLower.toNat - 'a'.toNat + 10
  else 36

/-- The number of some digits in a base. -/
def digitsIn? (base : Nat) (ds : List Char) : Option Nat :=
  if ds ≠ [] ∧ ds.all (digitValue · < base) then
    some (ds.foldl (fun n c => base * n + digitValue c) 0)
  else none

/-- A literal in another base. -/
def baseLiteral? : List Char → Option Float
  | '0' :: mark :: ds =>
    (base? mark).bind fun base => (digitsIn? base ds).map fun n => decimalFloat false n 0
  | _ => none

/-- Infinity with a sign. -/
def signedInfinity (negative : Bool) : Float := Float.ofBits (withSign negative infinityBits)

/-- A number in base ten without its sign. -/
def unsignedNumber? (negative : Bool) (cs : List Char) : Option Float :=
  match decimalLiteral? cs with
  | some n => some (decimalFloat negative n.digits n.exponent)
  | none => if cs = "Infinity".toList then some (signedInfinity negative) else none

/-- The number of a word. -/
def wordNumber? (cs : List Char) : Option Float :=
  if cs = [] then some 0
  else (baseLiteral? cs).or (unsignedNumber? (splitSign cs).1 (splitSign cs).2)

/-- **The number of a text in a script.** -/
def textNumber (s : String) : Float :=
  (wordNumber? (trimBy isScriptBlank s.toList)).getD Decimal.nan

/-! ## Words -/

/-- An infinity in a spelling that only the interpreter knows. -/
def foreignInfinity? (negative : Bool) (cs : List Char) : Option Float :=
  if namedBits? cs = some infinityBits ∧ cs ≠ "Infinity".toList then
    some (signedInfinity negative)
  else none

/-- The number that only one of the two sides finds in a word. -/
def oneSided? (cs : List Char) : Option Float :=
  if cs = [] then some 0
  else (baseLiteral? cs).or (foreignInfinity? (splitSign cs).1 (splitSign cs).2)

/-- The number of a word for the interpreter. -/
def readWord? (cs : List Char) : Option Float := Decimal.read? (String.ofList cs)

theorem readWord?_eq (cs : List Char) :
    readWord? cs =
      (readUnsigned? (splitSign cs).1 (splitSign cs).2).map Float.ofBits := by
  rw [readWord?, Decimal.read?, Decimal.readBits?, String.toList_ofList]
  unfold splitSign
  split <;> simp_all

/-! ### Names and numerals -/

theorem toLower_of_isDigit {c : Char} (h : c.isDigit) : c.toLower = c := by
  simp only [Char.isDigit, Bool.and_eq_true, decide_eq_true_eq] at h
  rw [Char.toLower, dif_neg]
  intro hupper
  have hle := UInt32.le_trans hupper.1 h.2
  exact absurd hle (by decide)

theorem numeral?_cons_eq_none {c : Char} {cs : List Char} (hdigit : c.isDigit = false)
    (hpoint : c ≠ '.') : numeral? (c :: cs) = none := by
  have hspan : spanDigits ([] ++ c :: cs) = ([], c :: cs) :=
    spanDigits_append (fun _ h => nomatch h) hdigit
  rw [List.nil_append] at hspan
  rw [numeral?, hspan]
  dsimp only
  split
  · next heq => exact absurd (List.cons.inj heq).1 hpoint
  · rfl

theorem numeral?_of_namedBits? {cs : List Char} {bits : UInt64} (h : namedBits? cs = some bits) :
    numeral? cs = none := by
  cases cs with
  | nil => rfl
  | cons c cs =>
    have hlower : c.toLower = 'i' ∨ c.toLower = 'n' := by
      rcases lower_of_namedBits? h with ⟨-, hname | hname⟩ | ⟨-, hname⟩
      · exact .inl (List.cons.inj hname).1
      · exact .inl (List.cons.inj hname).1
      · exact .inr (List.cons.inj hname).1
    refine numeral?_cons_eq_none ?_ ?_
    · refine Bool.eq_false_iff.mpr fun hdigit => ?_
      rw [toLower_of_isDigit hdigit] at hlower
      rcases hlower with rfl | rfl <;> cases hdigit
    · rintro rfl
      exact absurd hlower (by decide)

theorem mark_of_base? {mark : Char} {base : Nat} (h : base? mark = some base) :
    mark.isAlpha ∧ base ≤ 36 ∧ mark.isDigit = false ∧ mark ≠ '.' ∧ mark ≠ 'e' ∧ mark ≠ 'E' := by
  unfold base? at h
  split at h
  · next hmark => cases h; rcases hmark with rfl | rfl <;> decide
  split at h
  · next hmark => cases h; rcases hmark with rfl | rfl <;> decide
  split at h
  · next hmark => cases h; rcases hmark with rfl | rfl <;> decide
  · cases h

/-- A literal in another base is no number for the interpreter. -/
theorem readWord?_of_baseLiteral? {cs : List Char} {x : Float} (h : baseLiteral? cs = some x) :
    readWord? cs = none := by
  unfold baseLiteral? at h
  split at h
  · next mark ds =>
    obtain ⟨base, hbase, -⟩ := Option.bind_eq_some_iff.mp h
    obtain ⟨-, -, hmark⟩ := mark_of_base? hbase
    have hspan : spanDigits (['0'] ++ mark :: ds) = (['0'], mark :: ds) :=
      spanDigits_append (by simp) hmark.1
    have hnumeral : numeral? ('0' :: mark :: ds) = none := by
      rw [List.singleton_append] at hspan
      rw [numeral?, hspan]
      dsimp only
      split
      · next heq => exact absurd (List.cons.inj heq).1 hmark.2.1
      · simp [Decimal.exponent?, hmark]
    have hnamed : namedBits? ('0' :: mark :: ds) = none := by
      refine Option.eq_none_iff_forall_ne_some.mpr fun bits hbits => ?_
      rcases lower_of_namedBits? hbits with ⟨-, hname | hname⟩ | ⟨-, hname⟩ <;>
        cases (List.cons.inj hname).1
    rw [readWord?_eq]
    change (readUnsigned? false ('0' :: mark :: ds)).map _ = none
    rw [readUnsigned?, hnumeral, hnamed]
    rfl
  · cases h

/-! ### Words compared -/

section

variable {rel : Float → Bool}

/-- Both sides compare a word without a sign alike, other spellings of infinity apart. -/
theorem relates_unsigned_iff (hnan : rel Decimal.nan = false) (negative : Bool) (cs : List Char) :
    rel ((unsignedNumber? negative cs).getD Decimal.nan) =
        ((readUnsigned? negative cs).map Float.ofBits).any rel ↔
      ∀ x, foreignInfinity? negative cs = some x → rel x = false := by
  rw [unsignedNumber?, decimalLiteral?_eq_numeral?, readUnsigned?, foreignInfinity?]
  cases hnumeral : numeral? cs with
  | some n =>
    have hnamed : namedBits? cs ≠ some infinityBits := by
      intro hbits
      rw [numeral?_of_namedBits? hbits] at hnumeral
      cases hnumeral
    dsimp only
    rw [if_neg fun h => hnamed h.1]
    exact ⟨fun _ _ h => (nomatch h), fun _ => rfl⟩
  | none =>
    dsimp only
    cases hnamed : namedBits? cs with
    | none =>
      have hne : cs ≠ "Infinity".toList := by
        rintro rfl
        cases hnamed
      rw [if_neg hne, if_neg fun h => nomatch h.1]
      exact ⟨fun _ _ h => (nomatch h), fun _ => hnan⟩
    | some bits =>
      rcases lower_of_namedBits? hnamed with ⟨rfl, -⟩ | ⟨rfl, hname⟩
      · by_cases hspelling : cs = "Infinity".toList
        · rw [if_pos hspelling, if_neg fun h => h.2 hspelling]
          exact ⟨fun _ _ h => (nomatch h), fun _ => rfl⟩
        · rw [if_neg hspelling, if_pos ⟨rfl, hspelling⟩]
          refine ⟨fun h x hx => ?_, fun h => hnan.trans (h _ rfl).symm⟩
          rw [← Option.some.inj hx]
          exact h.symm.trans hnan
      · have hne : cs ≠ "Infinity".toList := by
          rintro rfl
          exact absurd hname (by decide)
        have hbits : some nanBits ≠ some infinityBits := by decide
        rw [if_neg hne, if_neg fun h => hbits h.1, Option.map_some, Option.map_some,
          Option.any_some, ofBits_withSign_nan]
        exact ⟨fun _ _ h => (nomatch h), fun _ => rfl⟩

/-- **Both sides compare a word alike, unless only one of them takes it for a number.** -/
theorem relates_word_iff (hnan : rel Decimal.nan = false) (cs : List Char) :
    rel ((wordNumber? cs).getD Decimal.nan) = (readWord? cs).any rel ↔
      ∀ x, oneSided? cs = some x → rel x = false := by
  rw [wordNumber?, oneSided?]
  by_cases hempty : cs = []
  · have hread : readWord? [] = none := by rfl
    rw [if_pos hempty, if_pos hempty, hempty, hread]
    simp
  rw [if_neg hempty, if_neg hempty]
  cases hliteral : baseLiteral? cs with
  | some x =>
    rw [readWord?_of_baseLiteral? hliteral]
    simp
  | none =>
    rw [readWord?_eq, Option.none_or, Option.none_or]
    exact relates_unsigned_iff hnan _ _

end

/-! ### The characters of numbers -/

theorem not_isBlank_of_isVisible {c : Char} (h : isVisible c) :
    Unicode.isBlank c = false ∧ isScriptBlank c = false := by
  simp only [isVisible, Bool.and_eq_true, decide_eq_true_eq] at h
  obtain ⟨hlow, hhigh⟩ := h
  have hc : c = Char.ofNat c.toNat := (Char.ofNat_toNat c).symm
  rw [hc]
  generalize c.toNat = n at *
  interval_cases n <;> exact ⟨rfl, rfl⟩

theorem allVisible_of_splitSign {cs : List Char} (h : AllVisible (splitSign cs).2) :
    AllVisible cs := by
  unfold splitSign at h
  split at h
  · exact allVisible_cons rfl h
  · exact allVisible_cons rfl h
  · exact h

theorem allVisible_of_digitsIn? {base : Nat} {ds : List Char} (hbase : base ≤ 36)
    (h : (digitsIn? base ds).isSome) : AllVisible ds := by
  unfold digitsIn? at h
  split at h
  · next hds =>
    intro c hc
    have hlt : digitValue c < base := of_decide_eq_true (List.all_eq_true.mp hds.2 c hc)
    unfold digitValue at hlt
    split at hlt
    · next hdigit => exact isVisible_of_isDigit hdigit
    split at hlt
    · next halpha => exact isVisible_of_isAlpha halpha
    · omega
  · cases h

theorem allVisible_of_baseLiteral? {cs : List Char} (h : (baseLiteral? cs).isSome) :
    AllVisible cs := by
  unfold baseLiteral? at h
  split at h
  · next mark ds =>
    cases hbase : base? mark with
    | none =>
      rw [hbase] at h
      cases h
    | some base =>
      rw [hbase, Option.bind_some, Option.isSome_map] at h
      obtain ⟨hmark, hle, -⟩ := mark_of_base? hbase
      refine allVisible_cons rfl (allVisible_cons (isVisible_of_isAlpha hmark) ?_)
      exact allVisible_of_digitsIn? hle h
  · cases h

theorem allVisible_of_wordNumber? {cs : List Char} (h : (wordNumber? cs).isSome) :
    AllVisible cs := by
  unfold wordNumber? at h
  split at h
  · next hempty => exact hempty ▸ allVisible_nil
  rw [Option.isSome_or, Bool.or_eq_true] at h
  rcases h with h | h
  · exact allVisible_of_baseLiteral? h
  refine allVisible_of_splitSign ?_
  rw [unsignedNumber?, decimalLiteral?_eq_numeral?] at h
  split at h
  · next n hnumeral => exact allVisible_of_numeral? (by rw [hnumeral]; rfl)
  split at h
  · next hname => exact hname ▸ List.all_eq_true.mp (by decide)
  · cases h

/-! ### Ends of texts -/

theorem mem_dropWhile_or {p : Char → Bool} {cs : List Char} {c : Char} (h : c ∈ cs) :
    c ∈ cs.dropWhile p ∨ p c := by
  rw [← List.takeWhile_append_dropWhile (p := p) (l := cs)] at h
  exact (List.mem_append.mp h).symm.imp_right List.mem_takeWhile_imp

theorem mem_trimBy_or {p : Char → Bool} {cs : List Char} {c : Char} (h : c ∈ cs) :
    c ∈ trimBy p cs ∨ p c := by
  rcases mem_dropWhile_or h with h | h
  · rw [trimBy, List.mem_reverse]
    exact mem_dropWhile_or (List.mem_reverse.mpr h)
  · exact .inr h

theorem dropWhile_congr {p q : Char → Bool} {cs : List Char} (h : ∀ c ∈ cs, p c = q c) :
    cs.dropWhile p = cs.dropWhile q := by
  induction cs with
  | nil => rfl
  | cons c cs ih =>
    rw [List.dropWhile_cons, List.dropWhile_cons, h c List.mem_cons_self,
      ih fun d hd => h d (List.mem_cons_of_mem c hd)]

theorem trimBy_congr {p q : Char → Bool} {cs : List Char} (h : ∀ c ∈ cs, p c = q c) :
    trimBy p cs = trimBy q cs := by
  rw [trimBy, trimBy, dropWhile_congr h]
  refine congrArg List.reverse (dropWhile_congr fun c hc => h c ?_)
  exact (List.dropWhile_sublist q).mem (List.mem_reverse.mp hc)

theorem blank_of_clean {p q : Char → Bool} {cs : List Char}
    (hq : ∀ c ∈ trimBy q cs, p c = false) : ∀ c ∈ cs, p c → q c := by
  intro c hc hp
  refine (mem_trimBy_or hc).resolve_left fun hmem => ?_
  rw [hq c hmem] at hp
  cases hp

/-- Two notions of a blank that leave nothing of each other cut the same ends. -/
theorem trimBy_eq_of_clean {p q : Char → Bool} {cs : List Char}
    (hp : ∀ c ∈ trimBy p cs, q c = false) (hq : ∀ c ∈ trimBy q cs, p c = false) :
    trimBy p cs = trimBy q cs :=
  trimBy_congr fun c hc => Bool.eq_iff_iff.mpr ⟨blank_of_clean hq c hc, blank_of_clean hp c hc⟩

/-- A text whose ends the two sides cut differently is a number for one of them at most. -/
theorem trimBy_eq_of_both {cs : List Char}
    (hscript : (wordNumber? (trimBy isScriptBlank cs)).isSome)
    (hread : (readWord? (Text.trimChars cs)).isSome) :
    trimBy isScriptBlank cs = Text.trimChars cs :=
  trimBy_eq_of_clean
    (fun c hc => (not_isBlank_of_isVisible (allVisible_of_wordNumber? hscript c hc)).1)
    (fun c hc => (not_isBlank_of_isVisible (Decimal.allVisible_of_read? hread c hc)).2)

/-- The number that only one of the two sides finds in a text. -/
def oneSidedText? (s : String) : Option Float :=
  let word := trimBy isScriptBlank s.toList
  if word = Text.trimChars s.toList then oneSided? word
  else (wordNumber? word).or (readWord? (Text.trimChars s.toList))

theorem asNumber?_str (s : String) :
    (Json.str s).asNumber? = readWord? (Text.trimChars s.toList) := Option.map_map _ _ _

/-- **Both sides compare a text alike, unless only one of them takes it for a number.** -/
theorem relates_text_iff {rel : Float → Bool} (hnan : rel Decimal.nan = false) (s : String) :
    rel (textNumber s) = (Json.str s).asNumber?.any rel ↔
      ∀ x, oneSidedText? s = some x → rel x = false := by
  rw [asNumber?_str, textNumber, oneSidedText?]
  by_cases htrim : trimBy isScriptBlank s.toList = Text.trimChars s.toList
  · rw [if_pos htrim, htrim]
    exact relates_word_iff hnan _
  · have hnot : (wordNumber? (trimBy isScriptBlank s.toList)).isSome →
        ¬(readWord? (Text.trimChars s.toList)).isSome :=
      fun hscript hread => htrim (trimBy_eq_of_both hscript hread)
    rw [if_neg htrim]
    cases hscript : wordNumber? (trimBy isScriptBlank s.toList) with
    | none =>
      rw [Option.getD_none, hnan, Option.none_or, eq_comm, Option.any_eq_false]
    | some x =>
      have hread : readWord? (Text.trimChars s.toList) = none := by
        rw [hscript] at hnot
        exact Option.not_isSome_iff_eq_none.mp (hnot rfl)
      rw [hread]
      exact ⟨fun h y hy => Option.some.inj hy ▸ h, fun h => h x rfl⟩

end ExperimentQuery.Script
