import ExperimentQuery.Proofs.Decimal.Digits
import ExperimentQuery.Proofs.Script.Wording
import Mathlib.Tactic.IntervalCases

/-!
# String literals in a line

A scanner passes over a line of a script and leaves out what stands between quotes. A backslash
takes the next character with it, so a quote after a backslash ends no literal. Whatever a literal
holds, the scanner is outside of it again after its closing quote.

* `Scan`, `Scan.next`: where the scanner is;
* **`blankFrom`**: a line without the content of its literals;
* `scan_quoteString`: a literal is passed over;
* `Token.isPlain`: a token that has no quote and no line feed, unless it is a literal;
* **`scan_tokensText`**: a line of tokens without the content of its literals is the line of the
  tokens without it.
-/

namespace ExperimentQuery.Script

/-! ## The scanner -/

/-- Where a scanner of literals is: outside of them, in one, or after a backslash in one. -/
inductive Scan where
  | outside
  | inside
  | escaped
  deriving Repr, DecidableEq

/-- Where the scanner is after a character. -/
def Scan.next : Scan → Char → Scan
  | outside, c => if c = '"' then inside else outside
  | inside, c => if c = '\\' then escaped else if c = '"' then outside else inside
  | escaped, _ => inside

/-- Where the scanner is after some characters. -/
def Scan.after (s : Scan) (cs : List Char) : Scan := cs.foldl next s

/-- Whether a character stands outside of literals, its quotes counting as outside. -/
def Scan.keeps : Scan → Char → Bool
  | outside, _ => true
  | inside, c => c = '"'
  | escaped, _ => false

/-- **A text without the content of its string literals.** -/
def blankFrom (s : Scan) : List Char → List Char
  | [] => []
  | c :: cs => if s.keeps c then c :: blankFrom (s.next c) cs else blankFrom (s.next c) cs

@[simp]
theorem Scan.after_nil (s : Scan) : s.after [] = s := rfl

@[simp]
theorem Scan.after_cons (s : Scan) (c : Char) (cs : List Char) :
    s.after (c :: cs) = (s.next c).after cs := rfl

@[simp]
theorem Scan.after_append (s : Scan) (cs ds : List Char) :
    s.after (cs ++ ds) = (s.after cs).after ds := List.foldl_append

@[simp]
theorem blankFrom_append (s : Scan) (cs ds : List Char) :
    blankFrom s (cs ++ ds) = blankFrom s cs ++ blankFrom (s.after cs) ds := by
  induction cs generalizing s with
  | nil => rfl
  | cons c cs ih =>
    rw [List.cons_append, blankFrom, blankFrom, ih, Scan.after_cons]
    split <;> rfl

/-! ## Literals -/

theorem ne_of_mem_hexDigits {count n : Nat} {d : Char} (hd : d ∈ Text.hexDigits count n) :
    d ≠ '"' ∧ d ≠ '\\' ∧ d ≠ '\n' := by
  induction count generalizing n with
  | zero => exact nomatch hd
  | succ count ih =>
    rw [Text.hexDigits, List.mem_append, List.mem_singleton] at hd
    rcases hd with hd | rfl
    · exact ih hd
    · have hn : n % 16 < 16 := Nat.mod_lt n (by decide)
      generalize n % 16 = digit at *
      interval_cases digit <;> decide

theorem scan_inside {cs : List Char} (h : ∀ c ∈ cs, c ≠ '"' ∧ c ≠ '\\') :
    Scan.inside.after cs = .inside ∧ blankFrom .inside cs = [] := by
  induction cs with
  | nil => exact ⟨rfl, rfl⟩
  | cons c cs ih =>
    obtain ⟨hquote, hbackslash⟩ := h c List.mem_cons_self
    have hnext : Scan.inside.next c = .inside := by simp [Scan.next, hquote, hbackslash]
    have hrest := ih fun d hd => h d (List.mem_cons_of_mem c hd)
    rw [Scan.after_cons, blankFrom, hnext]
    simpa [Scan.keeps, hquote] using hrest

/-- The scanner stays in a literal over an escaped character, whatever the character is. -/
theorem scan_escapeChar (c : Char) :
    Scan.inside.after (escapeChar c) = .inside ∧ blankFrom .inside (escapeChar c) = [] := by
  unfold escapeChar
  by_cases hbackslash : c = '\\'
  · subst hbackslash
    decide
  by_cases hquote : c = '"'
  · subst hquote
    decide
  rw [if_neg hbackslash, if_neg hquote]
  split
  · decide
  split
  · decide
  split
  · decide
  split
  · -- past the backslash and the letter `u`
    have hdigits : ∀ d ∈ Text.hexDigits 4 c.toNat, d ≠ '"' ∧ d ≠ '\\' := fun d hd =>
      ⟨(ne_of_mem_hexDigits hd).1, (ne_of_mem_hexDigits hd).2.1⟩
    change Scan.inside.after (Text.hexDigits 4 c.toNat) = .inside ∧
      blankFrom .inside (Text.hexDigits 4 c.toNat) = []
    exact scan_inside hdigits
  · exact scan_inside fun d hd => by rw [List.mem_singleton.mp hd]; exact ⟨hquote, hbackslash⟩

theorem scan_escapeChars (cs : List Char) :
    Scan.inside.after (escapeChars cs) = .inside ∧ blankFrom .inside (escapeChars cs) = [] := by
  induction cs with
  | nil => exact ⟨rfl, rfl⟩
  | cons c cs ih =>
    obtain ⟨hafter, hblank⟩ := scan_escapeChar c
    have hcons : escapeChars (c :: cs) = escapeChar c ++ escapeChars cs := List.flatMap_cons
    rw [hcons, Scan.after_append, blankFrom_append, hafter, hblank]
    exact ih

theorem newline_not_mem_escapeChar (c : Char) : '\n' ∉ escapeChar c := by
  unfold escapeChar
  split
  · decide
  split
  · decide
  split
  · decide
  split
  · decide
  split
  · decide
  split
  · intro hmem
    rcases List.mem_cons.mp hmem with heq | hmem
    · exact absurd heq (by decide)
    rcases List.mem_cons.mp hmem with heq | hmem
    · exact absurd heq (by decide)
    exact (ne_of_mem_hexDigits hmem).2.2 rfl
  · next hfeed _ _ _ => exact fun hmem => hfeed (List.mem_singleton.mp hmem).symm

/-- **A literal is passed over**, and is empty without its content. -/
theorem scan_quoteString (s : String) :
    Scan.outside.after (quoteString s).toList = .outside ∧
      blankFrom .outside (quoteString s).toList = (quoteString "").toList := by
  obtain ⟨hafter, hblank⟩ := scan_escapeChars s.toList
  have hempty : (quoteString "").toList = ['"', '"'] := by
    simp [quoteString, quoteChars, escapeChars]
  rw [hempty, quoteString, String.toList_ofList, quoteChars]
  constructor
  · simp [Scan.next, hafter]
  · simp [blankFrom, Scan.next, Scan.keeps, hafter, hblank]

theorem newline_not_mem_quoteString (s : String) : '\n' ∉ (quoteString s).toList := by
  have hcontent : '\n' ∉ escapeChars s.toList := by
    rw [escapeChars, List.mem_flatMap]
    rintro ⟨c, -, hc⟩
    exact newline_not_mem_escapeChar c hc
  simpa [quoteString, quoteChars] using hcontent

/-! ## Plain texts -/

/-- Whether a character is neither a quote nor a line feed. -/
def isPlainChar (c : Char) : Bool := c != '"' && c != '\n'

/-- Whether a text has no quote and no line feed. -/
def isPlainText (s : String) : Bool := s.toList.all isPlainChar

@[simp]
theorem isPlainText_append (s t : String) :
    isPlainText (s ++ t) = (isPlainText s && isPlainText t) := by
  simp [isPlainText]

theorem isPlainText_ofList {cs : List Char} (h : ∀ c ∈ cs, isPlainChar c) :
    isPlainText (String.ofList cs) := by
  rwa [isPlainText, String.toList_ofList, List.all_eq_true]

theorem isPlainChar_of_isDigit {c : Char} (h : c.isDigit) : isPlainChar c := by
  have hne : c ≠ '"' ∧ c ≠ '\n' := by
    constructor <;> (rintro rfl; exact nomatch h)
  simp [isPlainChar, hne]

@[simp]
theorem isPlainText_digitText (n : Nat) : isPlainText (Decimal.digitText n) :=
  isPlainText_ofList fun _ hc =>
    isPlainChar_of_isDigit (Nat.isDigit_of_mem_toDigits (by decide) (by decide) hc)

theorem isPlainText_positional (d : Decimal.Scientific) :
    isPlainText (Decimal.positional "" d) := by
  rw [isPlainText, List.all_eq_true]
  intro c hc
  rcases mem_positional c hc with hdigit | rfl
  · exact isPlainChar_of_isDigit hdigit
  · rfl

@[simp]
theorem isPlainText_scriptNumber (x : Float) : isPlainText (Decimal.scriptNumber x) := by
  have hplain : isPlainText (Decimal.plain x) := by
    have hpositional := isPlainText_positional (Decimal.shortest .up x.toBits)
    have hminus : isPlainText "-" := by decide
    unfold Decimal.plain Decimal.signed
    split
    · rw [isPlainText_append, hminus, hpositional]
      rfl
    · exact hpositional
  unfold Decimal.scriptNumber Decimal.report
  split_ifs
  · decide
  · decide
  · decide
  · decide
  · exact hplain

/-- The scanner stays outside of literals over a plain text, and keeps it. -/
theorem scan_outside {s : String} (h : isPlainText s) :
    Scan.outside.after s.toList = .outside ∧ blankFrom .outside s.toList = s.toList := by
  rw [isPlainText] at h
  generalize s.toList = cs at h
  induction cs with
  | nil => exact ⟨rfl, rfl⟩
  | cons c cs ih =>
    rw [List.all_cons, Bool.and_eq_true] at h
    have hquote : c ≠ '"' := by
      rintro rfl
      exact nomatch h.1
    have hnext : Scan.outside.next c = .outside := if_neg hquote
    obtain ⟨hafter, hblank⟩ := ih h.2
    rw [Scan.after_cons, blankFrom, hnext, hafter, hblank]
    exact ⟨rfl, rfl⟩

/-! ## Tokens -/

/-- The token is a literal, or its text is plain. -/
def Token.isPlain : Token → Bool
  | str _ => true
  | t => isPlainText t.text

theorem scan_token {t : Token} (h : t.isPlain) :
    Scan.outside.after t.text.toList = .outside ∧
      blankFrom .outside t.text.toList = (t.without .texts).text.toList := by
  cases t with
  | str s => exact scan_quoteString s
  | _ => exact scan_outside h

theorem newline_not_mem_token {t : Token} (h : t.isPlain) : '\n' ∉ t.text.toList := by
  cases t with
  | str s => exact newline_not_mem_quoteString s
  | _ =>
    intro hmem
    have hplain := List.all_eq_true.mp h _ hmem
    exact absurd hplain (by decide)

theorem tokensText_cons (t : Token) (ts : List Token) :
    (tokensText (t :: ts)).toList = t.text.toList ++ (tokensText ts).toList := by
  simp [tokensText]

/-- **Tokens without their literals**: the scanner makes of the text of some tokens the text that
they have without the content of their literals. -/
theorem scan_tokensText {ts : List Token} (h : ∀ t ∈ ts, t.isPlain) :
    Scan.outside.after (tokensText ts).toList = .outside ∧
      blankFrom .outside (tokensText ts).toList =
        (tokensText (ts.map (Token.without .texts))).toList := by
  induction ts with
  | nil => simp [tokensText, blankFrom]
  | cons t ts ih =>
    obtain ⟨hafter, hblank⟩ := scan_token (h t List.mem_cons_self)
    obtain ⟨hafterRest, hblankRest⟩ := ih fun u hu => h u (List.mem_cons_of_mem t hu)
    rw [tokensText_cons, List.map_cons, tokensText_cons, Scan.after_append, blankFrom_append,
      hafter, hblank, hafterRest, hblankRest]
    exact ⟨rfl, rfl⟩

theorem newline_not_mem_tokensText {ts : List Token} (h : ∀ t ∈ ts, t.isPlain) :
    '\n' ∉ (tokensText ts).toList := by
  induction ts with
  | nil => simp [tokensText]
  | cons t ts ih =>
    rw [tokensText_cons, List.mem_append, not_or]
    exact ⟨newline_not_mem_token (h t List.mem_cons_self),
      ih fun u hu => h u (List.mem_cons_of_mem t hu)⟩

end ExperimentQuery.Script
