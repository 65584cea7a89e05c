import ExperimentQuery.Json.Parser
import ExperimentQuery.Proofs.Script.Quoting
import ExperimentQuery.Unicode.CodePoint

/-!
# String literals read back

A scanner for the string literals of JSON reads a quoted text back. It stops at the quote that ends
the literal, whatever the text holds and whatever follows.

* `letterEscape?`, `literalBody?`, `scanLiteral?`: the scanner;
* `hex?_hexDigits`: the number of some hexadecimal digits;
* `literalBody?_escapeChar`: one character is read back;
* `stringBody_of_literalBody?`, `parse?_quoteString`: what the scanner finds is JSON;
* `isLiteralChar_of_mem_quoteString`: the characters of a literal;
* **`quoteString_reads_back`**: quoted texts.
-/

namespace ExperimentQuery.Script

/-! ## The scanner -/

/-- The character that is written as a letter after a backslash. -/
def letterEscape? : Char → Option Char
  | '\\' => some '\\'
  | '"' => some '"'
  | 'n' => some '\n'
  | 'r' => some '\r'
  | 't' => some '\t'
  | _ => none

/-- The content of a literal whose opening quote has been read, and what follows its closing
quote. -/
def literalBody? : List Char → Option (List Char × List Char)
  | [] => none
  | '"' :: rest => some ([], rest)
  | '\\' :: 'u' :: a :: b :: c :: d :: rest => do
    let ch ← Unicode.char? (← Unicode.hex? [a, b, c, d])
    (literalBody? rest).map fun (content, rest) => (ch :: content, rest)
  | '\\' :: letter :: rest => do
    let ch ← letterEscape? letter
    (literalBody? rest).map fun (content, rest) => (ch :: content, rest)
  | c :: rest =>
    if c.toNat < 0x20 ∨ c = '\\' then none
    else (literalBody? rest).map fun (content, rest) => (c :: content, rest)

/-- **The literal at the front of a text**: its content, and what follows it. -/
def scanLiteral? : List Char → Option (List Char × List Char)
  | '"' :: rest => literalBody? rest
  | _ => none

/-! ## Hexadecimal digits -/

theorem hexDigit?_hexDigit : ∀ d < 16, Unicode.hexDigit? (Text.hexDigit d) = some d := by decide

/-- **The digits of a number** stand for the number, as far as there are digits. -/
theorem hex?_hexDigits (count n : Nat) :
    Unicode.hex? (Text.hexDigits (count + 1) n) = some (n % 16 ^ (count + 1)) := by
  have hfold : ∀ count n, (Text.hexDigits count n).foldlM
      (fun n c => (Unicode.hexDigit? c).map (16 * n + ·)) 0 = some (n % 16 ^ count) := by
    intro count
    induction count with
    | zero => exact fun n => congrArg some (Nat.mod_one n).symm
    | succ count ih =>
      intro n
      have hdigit := hexDigit?_hexDigit (n % 16) (Nat.mod_lt n (by decide))
      have hsplit : n % 16 ^ (count + 1) = 16 * (n / 16 % 16 ^ count) + n % 16 := by
        rw [Nat.pow_succ', Nat.mod_mul, Nat.add_comm]
      rw [Text.hexDigits, List.foldlM_append, ih, hsplit]
      simp [hdigit]
  rw [Unicode.hex?, if_neg (List.ne_nil_of_length_eq_add_one (Text.length_hexDigits _ n)), hfold]

theorem literalBody?_unicode {n : Nat} (hn : n < 0xD800) (rest : List Char) :
    literalBody? ('\\' :: 'u' :: Text.hexDigits 4 n ++ rest) =
      (literalBody? rest).map fun (content, rest) => (Char.ofNat n :: content, rest) := by
  have hhex : Unicode.hex? (Text.hexDigits 4 n) = some n := by
    rw [hex?_hexDigits, Nat.mod_eq_of_lt (by omega)]
  have hchar : Unicode.char? n = some (Char.ofNat n) := if_pos (.inl hn)
  obtain ⟨a, b, c, d, hdigits⟩ : ∃ a b c d, Text.hexDigits 4 n = [a, b, c, d] := ⟨_, _, _, _, rfl⟩
  rw [hdigits] at hhex ⊢
  simp [literalBody?, hhex, hchar]

/-! ## Reading back -/

theorem literalBody?_plain {c : Char} (hbackslash : c ≠ '\\') (hquote : c ≠ '"')
    (hcontrol : ¬c.toNat < 0x20) (rest : List Char) :
    literalBody? (c :: rest) =
      (literalBody? rest).map fun (content, rest) => (c :: content, rest) := by
  rw [literalBody?]
  · exact if_neg (not_or.mpr ⟨hcontrol, hbackslash⟩)
  all_goals simp_all

/-- **A character is read back** from the way it is written in a literal. -/
theorem literalBody?_escapeChar (c : Char) (rest : List Char) :
    literalBody? (escapeChar c ++ rest) =
      (literalBody? rest).map fun (content, rest) => (c :: content, rest) := by
  unfold escapeChar
  split_ifs with hbackslash hquote hfeed hreturn htab hcode
  · rw [hbackslash]
    rfl
  · rw [hquote]
    rfl
  · rw [hfeed]
    rfl
  · rw [hreturn]
    rfl
  · rw [htab]
    rfl
  · -- what is written as a code lies below the surrogates, so that its number is a character
    have hsmall : c.toNat < 0xD800 := by
      rcases hcode with rfl | rfl | hlt
      · decide
      · decide
      · omega
    rw [literalBody?_unicode hsmall, Char.ofNat_toNat]
  · exact literalBody?_plain hbackslash hquote (fun h => hcode (.inr (.inr h))) rest

theorem literalBody?_escapeChars (cs rest : List Char) :
    literalBody? (escapeChars cs ++ '"' :: rest) = some (cs, rest) := by
  induction cs with
  | nil => rfl
  | cons c cs ih =>
    have hcons : escapeChars (c :: cs) = escapeChar c ++ escapeChars cs := List.flatMap_cons
    rw [hcons, List.append_assoc, literalBody?_escapeChar, ih]
    rfl

theorem scanLiteral?_quoteString (s r : String) :
    scanLiteral? (quoteString s ++ r).toList = some (s.toList, r.toList) := by
  have hchars : (quoteString s ++ r).toList = '"' :: (escapeChars s.toList ++ '"' :: r.toList) := by
    simp [quoteString, quoteChars]
  rw [hchars]
  exact literalBody?_escapeChars s.toList r.toList

/-! ## The scanner among JSON readers -/

theorem shortEscape?_of_letterEscape? {letter c : Char} (h : letterEscape? letter = some c) :
    Json.shortEscape? letter = some c := by
  unfold letterEscape? at h
  split at h <;> cases h <;> rfl

theorem toNat_of_char? {n : Nat} {c : Char} (h : Unicode.char? n = some c) : c.toNat = n := by
  unfold Unicode.char? at h
  split at h
  · next hn =>
    cases h
    have hvalid : n.isValidChar := hn.imp_right fun ⟨hhigh, hlt⟩ => ⟨hhigh, hlt⟩
    rw [Char.ofNat, dif_pos hvalid]
    rfl
  · cases h

theorem exists_of_map_cons {read : Option (List Char × List Char)} {c : Char}
    {content rest : List Char}
    (h : (read.map fun (content, rest) => (c :: content, rest)) = some (content, rest)) :
    ∃ tail, content = c :: tail ∧ read = some (tail, rest) := by
  obtain ⟨⟨tail, rest'⟩, hread, heq⟩ := Option.map_eq_some_iff.mp h
  cases heq
  exact ⟨tail, rfl, hread⟩

/-- **The scanner finds what a reader of JSON finds**, the content by its numbers. -/
theorem stringBody_of_literalBody? {cs content rest : List Char}
    (h : literalBody? cs = some (content, rest)) :
    Json.stringBody cs = some (content.map Char.toNat, rest) := by
  fun_induction literalBody? cs generalizing content with
  | case1 => cases h
  | case2 =>
    cases h
    rfl
  | case3 a b c d cs ih =>
    obtain ⟨n, hhex, h⟩ := Option.bind_eq_some_iff.mp h
    obtain ⟨ch, hchar, h⟩ := Option.bind_eq_some_iff.mp h
    obtain ⟨tail, rfl, hrest⟩ := exists_of_map_cons h
    simp [Json.stringBody, Json.hex4?, hhex, ih hrest, toNat_of_char? hchar]
  | case4 letter cs hnot ih =>
    obtain ⟨ch, hletter, h⟩ := Option.bind_eq_some_iff.mp h
    obtain ⟨tail, rfl, hrest⟩ := exists_of_map_cons h
    rw [Json.stringBody]
    · simp [shortEscape?_of_letterEscape? hletter, ih hrest]
    · exact hnot
  | case5 => cases h
  | case6 c cs hquote hcode hletter hplain ih =>
    obtain ⟨tail, rfl, hrest⟩ := exists_of_map_cons h
    rw [Json.stringBody]
    · simp [hplain, ih hrest]
    all_goals assumption

theorem joinPairs?_map_toNat (cs : List Char) : Json.joinPairs? (cs.map Char.toNat) = some cs := by
  induction cs with
  | nil => rfl
  | cons c cs ih =>
    -- no character is half of a pair
    have hwhole : Json.isSurrogate c.toNat = false := by
      have hvalid := c.valid
      simp only [Json.isSurrogate, Bool.and_eq_false_iff, decide_eq_false_iff_not]
      rcases hvalid with hlow | ⟨hhigh, -⟩
      · left
        simp only [Char.toNat]
        omega
      · right
        simp only [Char.toNat]
        omega
    rw [List.map_cons, Json.joinPairs?.eq_def]
    simp [hwhole, ih]

/-- **A quoted text is JSON** for the text. -/
theorem parse?_quoteString (s : String) : Json.parse? (quoteString s) = some (.str s) := by
  have hchars : (quoteString s).toList = '"' :: (escapeChars s.toList ++ ['"']) := by
    simp [quoteString, quoteChars]
  have hspace : Json.skipSpace (quoteString s).toList = (quoteString s).toList := by
    rw [hchars]
    rfl
  have hbody : Json.stringBody (escapeChars s.toList ++ ['"']) =
      some (s.toList.map Char.toNat, []) :=
    stringBody_of_literalBody? (literalBody?_escapeChars s.toList [])
  have hunits : Json.ofUnits (s.toList.map Char.toNat) = .str s := by
    rw [Json.ofUnits, Json.text?, joinPairs?_map_toNat]
    simp
  have hvalue : Json.value (2 * (quoteString s).toList.length + 1) Json.depthLimit
      (quoteString s).toList = some (.str s, []) := by
    rw [hchars, Json.value, hbody, ← hunits]
    rfl
  have hflaws : Json.parseWithFlaws? (quoteString s) = some (.str s) := by
    simp only [Json.parseWithFlaws?, hspace, hvalue]
    rfl
  rw [Json.parse?, hflaws]
  rfl

/-! ## The characters of a literal -/

/-- A character that may stand in a literal: no control character and no line separator. -/
def IsLiteralChar (c : Char) : Prop := 0x20 ≤ c.toNat ∧ c ≠ '\u2028' ∧ c ≠ '\u2029'

instance : DecidablePred IsLiteralChar := fun _ => inferInstanceAs (Decidable (_ ∧ _ ∧ _))

theorem isLiteralChar_of_mem_hexDigits {count n : Nat} {d : Char}
    (hd : d ∈ Text.hexDigits count n) : IsLiteralChar d := by
  induction count generalizing n with
  | zero => exact nomatch hd
  | succ count ih =>
    rw [Text.hexDigits, List.mem_append, List.mem_singleton] at hd
    rcases hd with hd | rfl
    · exact ih hd
    · have hdigit : ∀ k < 16, IsLiteralChar (Text.hexDigit k) := by decide
      exact hdigit (n % 16) (Nat.mod_lt n (by decide))

theorem isLiteralChar_of_mem_pair {letter d : Char} (hletter : IsLiteralChar letter)
    (hd : d ∈ ['\\', letter]) : IsLiteralChar d := by
  rw [List.mem_cons, List.mem_singleton] at hd
  rcases hd with rfl | rfl
  · decide
  · exact hletter

theorem isLiteralChar_of_mem_escapeChar {c d : Char} (hd : d ∈ escapeChar c) : IsLiteralChar d := by
  unfold escapeChar at hd
  split_ifs at hd with _ _ _ _ _ hcode
  · exact isLiteralChar_of_mem_pair (by decide) hd
  · exact isLiteralChar_of_mem_pair (by decide) hd
  · exact isLiteralChar_of_mem_pair (by decide) hd
  · exact isLiteralChar_of_mem_pair (by decide) hd
  · exact isLiteralChar_of_mem_pair (by decide) hd
  · have hcodeChars : d ∈ ['\\', 'u'] ++ Text.hexDigits 4 c.toNat := hd
    rcases List.mem_append.mp hcodeChars with hd | hd
    · exact isLiteralChar_of_mem_pair (by decide) hd
    · exact isLiteralChar_of_mem_hexDigits hd
  · rw [List.mem_singleton.mp hd]
    rw [not_or, not_or] at hcode
    exact ⟨Nat.not_lt.mp hcode.2.2, hcode.1, hcode.2.1⟩

theorem isLiteralChar_of_mem_quoteString {s : String} {d : Char} (hd : d ∈ (quoteString s).toList) :
    IsLiteralChar d := by
  have hquote : IsLiteralChar '"' := by decide
  rw [quoteString, String.toList_ofList, quoteChars, List.mem_append, List.mem_cons,
    List.mem_singleton] at hd
  rcases hd with (rfl | hd) | rfl
  · exact hquote
  · obtain ⟨c, -, hd⟩ := List.mem_flatMap.mp hd
    exact isLiteralChar_of_mem_escapeChar hd
  · exact hquote

/-! ## Quoted texts -/

/-- **A quoted text is read back**, whatever follows it: the scanner takes one literal, whose
content is the text, and leaves what follows. The literal holds no control character and no line
separator, and a script that begins with one tells the text and what follows it. -/
theorem quoteString_reads_back (s r : String) :
    scanLiteral? (quoteString s ++ r).toList = some (s.toList, r.toList) ∧
      Json.parse? (quoteString s) = some (.str s) ∧
      (∀ c ∈ (quoteString s).toList, 0x20 ≤ c.toNat ∧ c ≠ '\u2028' ∧ c ≠ '\u2029') ∧
      (∀ t q : String, quoteString s ++ r = quoteString t ++ q ↔ s = t ∧ r = q) ∧
      Function.Injective quoteString := by
  have hsame : ∀ {s r t q : String}, quoteString s ++ r = quoteString t ++ q → s = t ∧ r = q := by
    intro s r t q h
    have hscan := scanLiteral?_quoteString s r
    rw [h, scanLiteral?_quoteString t q, Option.some.injEq, Prod.mk.injEq, String.toList_inj,
      String.toList_inj] at hscan
    exact ⟨hscan.1.symm, hscan.2.symm⟩
  refine ⟨scanLiteral?_quoteString s r, parse?_quoteString s,
    fun c hc => isLiteralChar_of_mem_quoteString hc, fun t q => ⟨hsame, ?_⟩, fun t u h => ?_⟩
  · rintro ⟨rfl, rfl⟩
    rfl
  · exact (hsame (congrArg (· ++ "") h)).1

end ExperimentQuery.Script
