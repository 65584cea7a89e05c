import ExperimentQuery.Unicode.CodePoint

/-!
# Text

Texts are cut and trimmed as lists of characters.

* `splitOn`: the pieces between the occurrences of a character;
* `splitOnWord`: the pieces between the occurrences of a word;
* `trim`: a text without the white space at its ends;
* `compact`: a text without any white space;
* `lines`: the lines of a text, a line feed or a carriage return before it ending each;
* `stripWord?`: what follows a word at the front of a text.
-/

namespace ExperimentQuery.Text

/-- The pieces between the occurrences of a character; there is always one. -/
def splitOn (sep : Char) : List Char → List (List Char)
  | [] => [[]]
  | c :: cs =>
    if c = sep then [] :: splitOn sep cs
    else match splitOn sep cs with
      | [] => [[c]]
      | piece :: pieces => (c :: piece) :: pieces

@[simp]
theorem splitOn_ne_nil (sep : Char) (cs : List Char) : splitOn sep cs ≠ [] := by
  cases cs with
  | nil => simp [splitOn]
  | cons c cs =>
    unfold splitOn
    split
    · simp
    · split <;> simp

/-- What follows a word at the front of a text. -/
def stripWord? : List Char → List Char → Option (List Char)
  | [], cs => some cs
  | _ :: _, [] => none
  | w :: ws, c :: cs => if w = c then stripWord? ws cs else none

/-- The pieces between the occurrences of a word, taken from the left; `skip` characters of an
occurrence are still to be passed over. -/
def splitOnWordFrom (word : List Char) : Nat → List Char → List (List Char)
  | _, [] => [[]]
  | skip + 1, _ :: cs => splitOnWordFrom word skip cs
  | 0, c :: cs =>
    if (stripWord? word (c :: cs)).isSome then [] :: splitOnWordFrom word (word.length - 1) cs
    else match splitOnWordFrom word 0 cs with
      | [] => [[c]]
      | piece :: pieces => (c :: piece) :: pieces

/-- The pieces between the occurrences of a word of one character or more. -/
def splitOnWord (word : List Char) (cs : List Char) : List (List Char) := splitOnWordFrom word 0 cs

/-- A text without the white space before it. -/
def trimStart (cs : List Char) : List Char := cs.dropWhile Unicode.isBlank

/-- A text without the white space after it. -/
def trimEnd (cs : List Char) : List Char := (cs.reverse.dropWhile Unicode.isBlank).reverse

/-- A text without the white space at its ends. -/
def trimChars (cs : List Char) : List Char := trimEnd (trimStart cs)

/-- A text without the white space at its ends. -/
def trim (s : String) : String := String.ofList (trimChars s.toList)

theorem dropWhile_of_head? {p : Char → Bool} {cs : List Char} (h : ¬cs.head?.any p) :
    cs.dropWhile p = cs := by
  cases cs with
  | nil => rfl
  | cons c cs => exact List.dropWhile_cons_of_neg (by simpa using h)

/-- A text is what is left of it and white space around it, if it has none at its ends. -/
theorem trimChars_between {before cs after : List Char} (hbefore : ∀ c ∈ before, Unicode.isBlank c)
    (hafter : ∀ c ∈ after, Unicode.isBlank c) (hhead : ¬cs.head?.any Unicode.isBlank)
    (hlast : ¬cs.getLast?.any Unicode.isBlank) : trimChars (before ++ cs ++ after) = cs := by
  rw [trimChars, trimStart, List.append_assoc, List.dropWhile_append_of_pos hbefore]
  cases cs with
  | nil =>
    have hblank : (after ++ []).dropWhile Unicode.isBlank = [] :=
      List.dropWhile_append_of_pos hafter
    rw [List.append_nil] at hblank
    rw [List.nil_append, hblank]
    rfl
  | cons c cs =>
    rw [dropWhile_of_head? (by simpa using hhead), trimEnd, List.reverse_append,
      List.dropWhile_append_of_pos (by simpa using hafter),
      dropWhile_of_head? (by rwa [List.head?_reverse]), List.reverse_reverse]

/-- A text without any white space. -/
def compact (s : String) : List Char := s.toList.filter fun c => !Unicode.isBlank c

/-- A line without the carriage return at its end. -/
def dropReturn (line : List Char) : List Char :=
  match line.reverse with
  | '\r' :: rest => rest.reverse
  | _ => line

/-- The lines of a text. A line ends at a line feed, together with a carriage return before it;
the end of the text ends a line only if something stands after the last line feed. -/
def lines (s : String) : List String :=
  let pieces := splitOn '\n' s.toList
  let ended := pieces.dropLast.map dropReturn
  let last := match pieces.getLast? with
    | none | some [] => []
    | some piece => [piece]
  (ended ++ last).map String.ofList

/-- The lower-case hexadecimal digit of a number below 16. -/
def hexDigit (n : Nat) : Char := Nat.digitChar n

/-- The `count` last hexadecimal digits of a number. -/
def hexDigits : Nat → Nat → List Char
  | 0, _ => []
  | count + 1, n => hexDigits count (n / 16) ++ [hexDigit (n % 16)]

@[simp]
theorem length_hexDigits (count n : Nat) : (hexDigits count n).length = count := by
  induction count generalizing n with
  | zero => rfl
  | succ count ih => simp [hexDigits, ih]

/-- A decimal number with zeros before it up to a width. -/
def padNat (width : Nat) (n : Nat) : String :=
  let ds := Nat.toDigits 10 n
  String.ofList (List.replicate (width - ds.length) '0' ++ ds)

end ExperimentQuery.Text
