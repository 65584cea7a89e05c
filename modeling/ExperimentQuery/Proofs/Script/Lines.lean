import ExperimentQuery.Script.Pipeline
import ExperimentQuery.Text.Basic

/-!
# The lines of a rendered script

A rendered script is cut into the lines that it was rendered from, and each of these into what it
holds itself if its text has further line breaks. What is said of every line is said part by part.

* `isComment`: whether a line is a comment;
* **`splitOnP_render`**: the lines of a rendered script;
* `Every`: what holds of the content of every line, with a lemma for each way of building lines.
-/

namespace ExperimentQuery.Script

/-! ## Cutting a script -/

/-- Whether a line is a comment: its first characters that are not blank are two slashes. -/
def isComment (line : List Char) : Bool := (Text.trimStart line).take 2 == ['/', '/']

theorem isComment_cons_of_isBlank {c : Char} (hc : Unicode.isBlank c) (cs : List Char) :
    isComment (c :: cs) = isComment cs := by
  rw [isComment, Text.trimStart, List.dropWhile_cons_of_pos hc]
  rfl

theorem isComment_cons_of_not_isBlank {c : Char} (hc : ¬ Unicode.isBlank c) (cs : List Char) :
    isComment (c :: cs) = (c == '/' && cs.take 1 == ['/']) := by
  rw [isComment, Text.trimStart, List.dropWhile_cons_of_neg hc]
  rfl

/-- The text of a line, as a rendered script has it. -/
def Line.chars (l : Line) : List Char := (l.text "  ").toList

theorem toList_render_cons (l : Line) (ls : List Line) :
    (render (l :: ls)).toList = l.chars ++ '\n' :: (render ls).toList := by
  simp [render, renderWith, Line.chars]

/-- **The lines of a rendered script are those of its parts**, after which nothing is left. -/
theorem splitOnP_render {sep : Char → Bool} (hsep : sep '\n') (ls : List Line) :
    (render ls).toList.splitOnP sep = (ls.flatMap fun l => l.chars.splitOnP sep) ++ [[]] := by
  induction ls with
  | nil => simp [render, renderWith, List.splitOnP_nil]
  | cons l ls ih =>
    rw [toList_render_cons, List.splitOnP_append_cons _ _ hsep, ih, List.flatMap_cons,
      List.append_assoc]

theorem eq_of_mem_indentation {depth : Nat} {c : Char}
    (hc : c ∈ (indentation "  " depth).toList) : c = ' ' := by
  simp only [indentation, String.toList_join, List.mem_flatMap, List.mem_replicate] at hc
  obtain ⟨unit, ⟨-, rfl⟩, hc⟩ := hc
  simpa using hc

theorem isComment_indentation_append (depth : Nat) (cs : List Char) :
    isComment ((indentation "  " depth).toList ++ cs) = isComment cs := by
  have hblank : ∀ c ∈ (indentation "  " depth).toList, Unicode.isBlank c := by
    intro c hc
    rw [eq_of_mem_indentation hc]
    rfl
  rw [isComment, Text.trimStart, List.dropWhile_append_of_pos hblank]
  rfl

theorem splitOnP_append_of_forall {sep : Char → Bool} {cs : List Char}
    (hcs : ∀ c ∈ cs, sep c = false) (ds : List Char) :
    (cs ++ ds).splitOnP sep = (ds.splitOnP sep).modifyHead (cs ++ ·) := by
  induction cs with
  | nil => exact (congrFun List.modifyHead_id _).symm
  | cons c cs ih =>
    have hrest := ih fun d hd => hcs d (List.mem_cons_of_mem c hd)
    rw [List.cons_append, List.splitOnP_cons_eq_if_modifyHead, hcs c List.mem_cons_self, hrest,
      List.modifyHead_modifyHead]
    rfl

/-- The last piece of one text and the first of the next are one piece of both together. -/
theorem exists_splitOnP_append {sep : Char → Bool} (cs : List Char) {ds first : List Char}
    {rest : List (List Char)} (hds : ds.splitOnP sep = first :: rest) :
    ∃ init last, cs.splitOnP sep = init ++ [last] ∧
      (cs ++ ds).splitOnP sep = init ++ (last ++ first) :: rest := by
  induction cs with
  | nil => exact ⟨[], [], List.splitOnP_nil, hds⟩
  | cons c cs ih =>
    obtain ⟨init, last, hcs, happend⟩ := ih
    rw [List.cons_append, List.splitOnP_cons_eq_if_modifyHead,
      List.splitOnP_cons_eq_if_modifyHead, hcs, happend]
    split
    · exact ⟨[] :: init, last, rfl, rfl⟩
    · cases init with
      | nil => exact ⟨[], c :: last, rfl, rfl⟩
      | cons piece init => exact ⟨(c :: piece) :: init, last, rfl, rfl⟩

/-! ## Statements on every line -/

/-- The content of every line satisfies `P`. -/
def Every (P : Content → Prop) (ls : List Line) : Prop := ∀ l ∈ ls, P l.content

section

variable {P : Content → Prop}

@[simp]
theorem every_nil : Every P [] := nofun

@[simp]
theorem every_cons {l : Line} {ls : List Line} : Every P (l :: ls) ↔ P l.content ∧ Every P ls :=
  List.forall_mem_cons

@[simp]
theorem every_append {ls ms : List Line} : Every P (ls ++ ms) ↔ Every P ls ∧ Every P ms :=
  List.forall_mem_append

@[simp]
theorem every_flatMap {α : Type} {f : α → List Line} {as : List α} :
    Every P (as.flatMap f) ↔ ∀ a ∈ as, Every P (f a) := by
  simp only [Every, List.mem_flatMap]
  grind

@[simp]
theorem every_map {α : Type} {f : α → Line} {as : List α} :
    Every P (as.map f) ↔ ∀ a ∈ as, P (f a).content :=
  List.forall_mem_map

@[simp]
theorem content_comment (s : String) : (comment s).content = .comment s := rfl

@[simp]
theorem content_code (ts : List Token) : (code ts).content = .code ts := rfl

@[simp]
theorem content_codeText (s : String) : (codeText s).content = .code [.raw s] := rfl

@[simp]
theorem content_blank : blank.content = .blank := rfl

@[simp]
theorem every_nest {ls : List Line} : Every P (nest ls) ↔ Every P ls := List.forall_mem_map

@[simp]
theorem every_block {opening : List Token} {body : List Line} {closing : String} :
    Every P (block opening body closing) ↔
      P (.code opening) ∧ Every P body ∧ P (.code [.raw closing]) := by
  simp [block]

@[simp]
theorem every_braceBlock {opening : List Token} {body : List Line} {after : String} :
    Every P (braceBlock opening body after) ↔
      P (.code (opening ++ [.raw "\x7b"])) ∧ Every P body ∧ P (.code [.raw ("\x7d" ++ after)]) :=
  every_block

theorem every_separated {α : Type} {line : α → String → Line} {as : List α}
    (h : ∀ a, P (line a "").content ∧ P (line a ",").content) : Every P (separated line as) := by
  induction as with
  | nil => exact every_nil
  | cons a as ih =>
    cases as with
    | nil => exact every_cons.mpr ⟨(h a).1, every_nil⟩
    | cons b as => exact every_cons.mpr ⟨(h a).2, ih⟩

end

end ExperimentQuery.Script
