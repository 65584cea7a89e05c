import ExperimentQuery.Json.Printer
import ExperimentQuery.Proofs.Script.Unquoting

/-!
# Texts in JSON read back

A text is written with its quotes, backslashes and control characters escaped, and the reader gives
it back whatever follows. So does an object whose members are texts.

* `stringBody_escapeChar`, **`stringBody_escape`**: the characters of a text;
* `value_quote`: a text as a value;
* `textMembers`: members that are texts;
* `membersFrom_compactMembers`, **`parseWithFlaws?_textMembers`**: an object of texts.
-/

namespace ExperimentQuery.Json

/-! ## Texts -/

theorem stringBody_code {n : Nat} (hn : n < 0x10000) (rest : List Char) :
    stringBody ('\\' :: 'u' :: Text.hexDigits 4 n ++ rest) =
      (stringBody rest).map fun (units, rest) => (n :: units, rest) := by
  have hhex : Unicode.hex? (Text.hexDigits 4 n) = some n := by
    rw [Script.hex?_hexDigits, Nat.mod_eq_of_lt (by omega)]
  obtain ⟨a, b, c, d, hdigits⟩ : ∃ a b c d, Text.hexDigits 4 n = [a, b, c, d] := ⟨_, _, _, _, rfl⟩
  rw [hdigits] at hhex ⊢
  simp only [List.cons_append, List.nil_append, stringBody, hex4?, hhex]
  cases stringBody rest <;> rfl

theorem stringBody_letter {letter c : Char} (hcode : letter ≠ 'u')
    (h : shortEscape? letter = some c) (rest : List Char) :
    stringBody ('\\' :: letter :: rest) =
      (stringBody rest).map fun (units, rest) => (c.toNat :: units, rest) := by
  rw [stringBody, h]
  · cases stringBody rest <;> rfl
  · simp [hcode]

theorem stringBody_plain {c : Char} (hbackslash : c ≠ '\\') (hquote : c ≠ '"')
    (hcontrol : ¬c.toNat < 0x20) (rest : List Char) :
    stringBody (c :: rest) =
      (stringBody rest).map fun (units, rest) => (c.toNat :: units, rest) := by
  rw [stringBody]
  · exact if_neg (not_or.mpr ⟨hcontrol, hbackslash⟩)
  all_goals simp_all

/-- **A character is read back** from the way it is written. -/
theorem stringBody_escapeChar (c : Char) (rest : List Char) :
    stringBody (escapeChar c ++ rest) =
      (stringBody rest).map fun (units, rest) => (c.toNat :: units, rest) := by
  unfold escapeChar
  split_ifs with hquote hbackslash hback hform hfeed hreturn htab hcontrol
  · exact stringBody_letter (by decide) (by rw [hquote]; rfl) rest
  · exact stringBody_letter (by decide) (by rw [hbackslash]; rfl) rest
  · exact stringBody_letter (by decide) (by rw [hback]; rfl) rest
  · exact stringBody_letter (by decide) (by rw [hform]; rfl) rest
  · exact stringBody_letter (by decide) (by rw [hfeed]; rfl) rest
  · exact stringBody_letter (by decide) (by rw [hreturn]; rfl) rest
  · exact stringBody_letter (by decide) (by rw [htab]; rfl) rest
  · exact stringBody_code (by omega) rest
  · exact stringBody_plain hbackslash hquote hcontrol rest

/-- **A text is read back**, whatever follows its closing quote. -/
theorem stringBody_escape (cs rest : List Char) :
    stringBody (escape cs ++ '"' :: rest) = some (cs.map Char.toNat, rest) := by
  induction cs with
  | nil => rfl
  | cons c cs ih =>
    have hcons : escape (c :: cs) = escapeChar c ++ escape cs := List.flatMap_cons
    rw [hcons, List.append_assoc, stringBody_escapeChar, ih]
    rfl

theorem text?_toNat (s : String) : text? (s.toList.map Char.toNat) = some s := by
  rw [text?, Script.joinPairs?_map_toNat, Option.map_some, String.ofList_toList]

theorem value_quote (fuel depth : Nat) (s : String) (rest : List Char) :
    value (fuel + 1) depth (quote s ++ rest) = some (str s, rest) := by
  have hchars : quote s ++ rest = '"' :: (escape s.toList ++ '"' :: rest) := by simp [quote]
  simp only [hchars, value, stringBody_escape, Option.map_some, ofUnits, text?_toNat,
    Option.elim_some]

/-! ## Objects of texts -/

/-- Members that are texts. -/
def textMembers (ms : List (String × String)) : List (String × Json) :=
  ms.map fun m => (m.1, str m.2)

theorem textMembers_cons (m : String × String) (ms : List (String × String)) :
    textMembers (m :: ms) = (m.1, str m.2) :: textMembers ms := rfl

theorem compactMembers_textMembers_cons (m m' : String × String) (ms : List (String × String)) :
    compactMembers (textMembers (m :: m' :: ms)) =
      quote m.1 ++ ':' :: quote m.2 ++ ',' :: compactMembers (textMembers (m' :: ms)) := by
  rw [textMembers_cons, textMembers_cons, compactMembers]
  · rfl
  · simp

theorem length_le_compactMembers (ms : List (String × String)) :
    ms.length ≤ (compactMembers (textMembers ms)).length := by
  induction ms with
  | nil => exact Nat.le_refl 0
  | cons m ms ih =>
    cases ms with
    | nil => simp [textMembers, compactMembers, quote]
    | cons m' ms =>
      have hlength : (compactMembers (textMembers (m' :: ms))).length + 1 ≤
          (compactMembers (textMembers (m :: m' :: ms))).length := by
        rw [compactMembers_textMembers_cons, List.length_append, List.length_cons]
        exact Nat.le_add_left _ _
      exact (Nat.succ_le_succ ih).trans hlength

theorem exists_compactMembers_eq (m : String × String) (ms : List (String × String)) :
    ∃ cs, compactMembers (textMembers (m :: ms)) = '"' :: cs := by
  cases ms <;> exact ⟨_, rfl⟩

theorem skipSpace_quote (s : String) (rest : List Char) :
    skipSpace (quote s ++ rest) = quote s ++ rest := rfl

theorem membersFrom_quote (fuel depth : Nat) (m : String × String) (rest : List Char) :
    membersFrom (fuel + 2) depth (quote m.1 ++ ':' :: quote m.2 ++ rest) =
      match skipSpace rest with
        | '\x7d' :: rest => some ([(some m.1, str m.2)], rest)
        | ',' :: rest => do
          let (ms, rest) ← membersFrom (fuel + 1) depth (skipSpace rest)
          return ((some m.1, str m.2) :: ms, rest)
        | _ => none := by
  have hchars : quote m.1 ++ ':' :: quote m.2 ++ rest =
      '"' :: (escape m.1.toList ++ '"' :: ':' :: (quote m.2 ++ rest)) := by simp [quote]
  have hcolon : skipSpace (':' :: (quote m.2 ++ rest)) = ':' :: (quote m.2 ++ rest) := rfl
  rw [hchars, membersFrom]
  simp only [stringBody_escape, Option.bind_eq_bind, Option.bind_some, hcolon, skipSpace_quote,
    value_quote, text?_toNat]
  rfl

theorem membersFrom_compactMembers {ms : List (String × String)} (hms : ms ≠ []) {fuel : Nat}
    (hfuel : ms.length < fuel) (depth : Nat) (rest : List Char) :
    membersFrom fuel depth (compactMembers (textMembers ms) ++ '\x7d' :: rest) =
      some (ms.map fun m => (some m.1, str m.2), rest) := by
  induction ms generalizing fuel with
  | nil => exact absurd rfl hms
  | cons m ms ih =>
    obtain ⟨fuel, rfl⟩ : ∃ n, fuel = n + 2 := ⟨fuel - 2, by simp at hfuel; omega⟩
    cases ms with
    | nil =>
      have hchars : compactMembers (textMembers [m]) = quote m.1 ++ ':' :: quote m.2 := rfl
      have hbrace : skipSpace ('\x7d' :: rest) = '\x7d' :: rest := rfl
      rw [hchars, membersFrom_quote, hbrace]
      rfl
    | cons m' ms =>
      have hnext := ih (List.cons_ne_nil m' ms) (Nat.succ_lt_succ_iff.mp hfuel)
      have hcomma (cs : List Char) : skipSpace (',' :: cs) = ',' :: cs := rfl
      have hquote (cs : List Char) : skipSpace (compactMembers (textMembers (m' :: ms)) ++ cs) =
          compactMembers (textMembers (m' :: ms)) ++ cs := by
        obtain ⟨_, heq⟩ := exists_compactMembers_eq m' ms
        rw [heq]
        rfl
      rw [compactMembers_textMembers_cons, List.append_assoc, List.cons_append, membersFrom_quote,
        hcomma]
      simp only [hquote, hnext]
      rfl

theorem ofMembers_texts (ms : List (String × String)) :
    ofMembers (ms.map fun m => (some m.1, str m.2)) = obj (textMembers ms) := by
  have hnamed : ms.mapM (fun m => some (m.1, str m.2)) = some (textMembers ms) :=
    List.mapM_pure
  simp only [ofMembers, List.mapM_map, Function.comp_def, Option.map_some, hnamed]

theorem value_textMembers {ms : List (String × String)} {fuel depth : Nat}
    (hfuel : ms.length < fuel) (hdepth : depth ≠ 0) (rest : List Char) :
    value (fuel + 1) depth ('\x7b' :: (compactMembers (textMembers ms) ++ '\x7d' :: rest)) =
      some (obj (textMembers ms), rest) := by
  cases ms with
  | nil =>
    have hbrace : skipSpace ('\x7d' :: rest) = '\x7d' :: rest := rfl
    simp only [textMembers, List.map_nil, compactMembers, List.nil_append, value, hbrace, atDepth,
      if_neg hdepth]
  | cons m ms =>
    obtain ⟨cs, heq⟩ := exists_compactMembers_eq m ms
    have hmembers := membersFrom_compactMembers (List.cons_ne_nil m ms) hfuel (depth - 1) rest
    have hquote : skipSpace ('"' :: (cs ++ '\x7d' :: rest)) = '"' :: (cs ++ '\x7d' :: rest) := rfl
    rw [heq, List.cons_append] at hmembers ⊢
    simp only [value, hquote, atDepth, if_neg hdepth]
    exact (congrArg (Option.map _) hmembers).trans (by rw [Option.map_some, ofMembers_texts])

/-- **An object of texts is read back.** -/
theorem parseWithFlaws?_textMembers (ms : List (String × String)) :
    parseWithFlaws? (obj (textMembers ms)).compact = some (obj (textMembers ms)) := by
  have hchars : (obj (textMembers ms)).compact.toList =
      '\x7b' :: (compactMembers (textMembers ms) ++ ['\x7d']) := by
    rw [compact, String.toList_ofList, compactChars, List.cons_append]
  have hskip : skipSpace (obj (textMembers ms)).compact.toList =
      (obj (textMembers ms)).compact.toList := by
    rw [hchars]
    rfl
  have hfuel : ms.length < 2 * (obj (textMembers ms)).compact.toList.length := by
    have hlength := length_le_compactMembers ms
    rw [hchars, List.length_cons, List.length_append]
    omega
  have hvalue := value_textMembers hfuel (by decide : depthLimit ≠ 0) []
  rw [← hchars] at hvalue
  simp only [parseWithFlaws?, hskip, hvalue]
  rfl

end ExperimentQuery.Json
