import ExperimentQuery.Proofs.Script.Lines
import ExperimentQuery.Proofs.Script.Quoting

/-!
# Skeletons of scripts

The skeleton of a script is what is left of its lines without the content of string literals. If
only literals have quotes and line feeds, escaped ones, then each line of a script is one line of
its text, and what its literals hold does not matter to its skeleton.

* **`skeleton`**: the lines of a script, each without the content of its literals;
* `Content.KeepsLiterals`: a line whose literals can be told from the rest of it;
* `skeleton_code`: the skeleton of a line of code;
* **`skeleton_render`**: in a script of such lines the content of literals does not matter.
-/

namespace ExperimentQuery.Script

/-! ## Skeletons -/

/-- A line without the content of its literals; a comment stays as it is. -/
def skeletonLine (line : List Char) : List Char :=
  if isComment line then line else blankFrom .outside line

/-- The lines of a script, a line feed ending each. -/
def feedLines (script : String) : List (List Char) := script.toList.splitOn '\n'

/-- **The skeleton of a script.** -/
def skeleton (script : String) : List (List Char) := (feedLines script).map skeletonLine

/-- Whether a token begins with a character that begins no comment. -/
def Token.opens (t : Token) : Bool :=
  t.text.toList.head?.any fun c => !Unicode.isBlank c && c != '/'

/-- Whether a token is a literal. -/
def Token.isLiteral : Token → Bool
  | str _ => true
  | _ => false

/-- The literals of a line can be told from the rest of it: there are none, or only literals have
quotes, and the line is no comment. -/
def Content.KeepsLiterals : Content → Prop
  | .code ts => (∀ t ∈ ts, ¬ t.isLiteral) ∨ (∃ t ∈ ts.head?, t.opens) ∧ ∀ t ∈ ts, t.isPlain
  | _ => True

@[simp]
theorem opens_str (s : String) : (Token.str s).opens := by
  have hquote : Unicode.isBlank '"' = false := rfl
  simp [Token.opens, Token.text, quoteString, quoteChars, hquote]

theorem opens_without_texts {t : Token} (h : t.opens) : (t.without .texts).opens := by
  cases t with
  | str s => exact opens_str ""
  | _ => exact h

theorem isPlain_without_texts {t : Token} (h : t.isPlain) : (t.without .texts).isPlain := by
  cases t with
  | str s => rfl
  | _ => exact h

theorem chars_code (depth : Nat) (ts : List Token) :
    Line.chars ⟨depth, .code ts⟩ = (indentation "  " depth).toList ++ (tokensText ts).toList := by
  simp [Line.chars, Line.text]

theorem newline_not_mem_code {depth : Nat} {ts : List Token} (h : ∀ t ∈ ts, t.isPlain) :
    '\n' ∉ Line.chars ⟨depth, .code ts⟩ := by
  rw [chars_code, List.mem_append, not_or]
  exact ⟨fun hmem => absurd (eq_of_mem_indentation hmem) (by decide), newline_not_mem_tokensText h⟩

theorem isComment_code {depth : Nat} {ts : List Token} (h : ∃ t ∈ ts.head?, t.opens) :
    isComment (Line.chars ⟨depth, .code ts⟩) = false := by
  obtain ⟨t, ht, hopens⟩ := h
  obtain ⟨us, rfl⟩ := List.head?_eq_some_iff.mp ht
  rw [chars_code, isComment_indentation_append, tokensText_cons]
  rw [Token.opens] at hopens
  cases hchars : t.text.toList with
  | nil => rw [hchars] at hopens; exact nomatch hopens
  | cons c cs =>
    rw [hchars, List.head?_cons, Option.any_some, Bool.and_eq_true, Bool.not_eq_true'] at hopens
    obtain ⟨hblank, hslash⟩ := hopens
    have hslash : (c == '/') = false := by simpa using hslash
    rw [List.cons_append, isComment_cons_of_not_isBlank (by simp [hblank]), hslash, Bool.false_and]

/-- **A line of code is one line of the script**, and its skeleton is the line of its tokens without
the content of literals. -/
theorem skeleton_code {depth : Nat} {ts : List Token} (h : ∃ t ∈ ts.head?, t.opens)
    (hts : ∀ t ∈ ts, t.isPlain) :
    ((Line.chars ⟨depth, .code ts⟩).splitOn '\n').map skeletonLine =
      [Line.chars ⟨depth, .code (ts.map (Token.without .texts))⟩] := by
  obtain ⟨hafter, hblank⟩ := scan_tokensText hts
  have hindent : isPlainText (indentation "  " depth) := by
    refine List.all_eq_true.mpr fun c hc => ?_
    rw [eq_of_mem_indentation hc]
    rfl
  obtain ⟨hafterIndent, hblankIndent⟩ := scan_outside hindent
  rw [List.splitOn_eq_singleton (newline_not_mem_code hts), List.map_singleton, skeletonLine,
    isComment_code h, if_neg (by decide), chars_code, chars_code, blankFrom_append, hafterIndent,
    hblankIndent, hblank]

/-- The lines of the script that a line gives, each without the content of its literals. -/
def Line.skeleton (l : Line) : List (List Char) := (l.chars.splitOn '\n').map skeletonLine

theorem map_without_without (w : Wording) (ts : List Token) :
    (ts.map (Token.without w)).map (Token.without w) = ts.map (Token.without w) := by
  rw [List.map_map]
  refine List.map_congr_left fun t _ => ?_
  cases t <;> simp

/-- The content of the literals of a line does not matter to its skeleton. -/
theorem skeleton_without_texts {l : Line} (h : l.content.KeepsLiterals) :
    (l.without .texts).skeleton = l.skeleton := by
  obtain ⟨depth, content⟩ := l
  cases content with
  | blank => rfl
  | comment s => rfl
  | code ts =>
    rcases h with hnone | ⟨hopens, hplain⟩
    · have htokens : ts.map (Token.without .texts) = ts := by
        refine (List.map_congr_left fun t ht => ?_).trans (List.map_id ts)
        cases t with
        | str s => exact absurd rfl (hnone _ ht)
        | _ => rfl
      rw [Line.without, Content.without, htokens]
    · have hopens' : ∃ t ∈ (ts.map (Token.without .texts)).head?, t.opens := by
        obtain ⟨t, ht, hopens⟩ := hopens
        refine ⟨t.without .texts, ?_, opens_without_texts hopens⟩
        rw [List.head?_map]
        exact Option.mem_map_of_mem _ ht
      have hplain' : ∀ t ∈ ts.map (Token.without .texts), t.isPlain :=
        List.forall_mem_map.mpr fun t ht => isPlain_without_texts (hplain t ht)
      rw [Line.skeleton, Line.skeleton, Line.without, Content.without, skeleton_code hopens hplain,
        skeleton_code hopens' hplain', map_without_without]

theorem skeleton_render_eq (ls : List Line) :
    skeleton (render ls) = ls.flatMap Line.skeleton ++ [[]] := by
  have hlines := @splitOnP_render (· == '\n') rfl ls
  rw [skeleton, feedLines, List.splitOn_eq_splitOnP, hlines, List.map_append, List.map_flatMap]
  rfl

/-- **The content of literals does not matter to the skeleton** of a script whose literals can be
told from the rest. -/
theorem skeleton_render {ls : List Line} (h : Every Content.KeepsLiterals ls) :
    skeleton (render (without .texts ls)) = skeleton (render ls) := by
  rw [skeleton_render_eq, skeleton_render_eq, without, List.flatMap_map]
  exact congrArg (· ++ [[]]) (List.flatMap_congr fun l hl => skeleton_without_texts (h l hl))

end ExperimentQuery.Script
