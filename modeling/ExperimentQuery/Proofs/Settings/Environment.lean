import ExperimentQuery.Settings.Basic

/-!
# Pieces of a setting

A setting is made up of literal text, of references to variables, and of dollar signs that begin no
reference. A reference in braces ends at its brace. One without braces goes as far as the
characters of names do, so that what may follow it matters, and the same holds of a dollar sign that
stands for itself. Pieces that fit together are expanded one after the other, and a value is not
looked at again.

* `SettingPiece`, `settingText`: pieces, and the text that they make up;
* `SettingPiece.FitsBefore`, `FitTogether`: what may follow a piece;
* `referenceParts_append`, `expandChars_append`: the scanner at the end of a piece;
* `exists_fitTogether`: every text is made up of pieces;
* **`expandSetting_pieces`**: the expansion of a setting, or the first variable that is not set.
-/

namespace ExperimentQuery

/-! ## Pieces -/

/-- A piece of a setting; a brace that is never closed takes all that follows as a name. -/
inductive SettingPiece where
  | literal (text : String)
  | braced (name : String)
  | bare (name : String)
  | unclosed (name : String)
  | dollar
  deriving Repr, DecidableEq

namespace SettingPiece

/-- The characters that a piece is written with. -/
def chars : SettingPiece → List Char
  | literal text => text.toList
  | braced name => '$' :: '\x7b' :: name.toList ++ ['\x7d']
  | bare name => '$' :: name.toList
  | unclosed name => '$' :: '\x7b' :: name.toList
  | dollar => ['$']

/-- The variable that a piece refers to. -/
def refersTo? : SettingPiece → Option String
  | braced name | bare name | unclosed name => some name
  | literal _ | dollar => none

/-- The variable of a piece, if it is not set. -/
def unset? (env : Environment) (p : SettingPiece) : Option String :=
  p.refersTo?.filter fun name => (env name).isNone

/-- The text that a piece stands for; a variable that is not set counts as empty. -/
def value (env : Environment) : SettingPiece → String
  | literal text => text
  | braced name | bare name | unclosed name => (env name).getD ""
  | dollar => "$"

/-- A piece may stand before these characters. -/
def FitsBefore : SettingPiece → List Char → Prop
  | literal text, _ => '$' ∉ text.toList
  | braced name, _ => '\x7d' ∉ name.toList
  | bare name, rest => name ≠ "" ∧ name.toList.all isNameChar ∧ ¬rest.head?.any isNameChar
  | unclosed name, rest => '\x7d' ∉ name.toList ∧ rest = []
  | dollar, rest => ¬rest.head?.any fun c => c == '\x7b' || isNameChar c

/-- A piece may stand before anything. -/
def IsClosed : SettingPiece → Prop
  | literal text => '$' ∉ text.toList
  | braced name => '\x7d' ∉ name.toList
  | bare _ | unclosed _ | dollar => False

instance (p : SettingPiece) (rest : List Char) : Decidable (p.FitsBefore rest) := by
  cases p <;> unfold FitsBefore <;> infer_instance

theorem IsClosed.fitsBefore {p : SettingPiece} (h : p.IsClosed) (rest : List Char) :
    p.FitsBefore rest := by
  cases p with
  | literal text => exact h
  | braced name => exact h
  | bare name => exact h.elim
  | unclosed name => exact h.elim
  | dollar => exact h.elim

end SettingPiece

/-- The text that some pieces make up. -/
def settingText (ps : List SettingPiece) : String := String.ofList (ps.flatMap (·.chars))

/-- Each of some pieces may stand before those that follow it. -/
def FitTogether : List SettingPiece → Prop
  | [] => True
  | p :: ps => p.FitsBefore (ps.flatMap (·.chars)) ∧ FitTogether ps

instance : (ps : List SettingPiece) → Decidable (FitTogether ps)
  | [] => .isTrue trivial
  | _ :: ps =>
    have := instDecidableFitTogether ps
    inferInstanceAs (Decidable (_ ∧ _))

/-- The first variable of some pieces that is not set. -/
def firstUnset? (env : Environment) (ps : List SettingPiece) : Option String :=
  ps.findSome? (·.unset? env)

theorem firstUnset?_cons (env : Environment) (p : SettingPiece) (ps : List SettingPiece) :
    firstUnset? env (p :: ps) = (p.unset? env).or (firstUnset? env ps) := by
  rw [firstUnset?, List.findSome?_cons]
  cases p.unset? env <;> rfl

/-! ## The scanner at the end of a piece -/

theorem takeWhile_append_of_head? {p : Char → Bool} {cs rest : List Char} (hcs : ∀ c ∈ cs, p c)
    (hrest : ¬rest.head?.any p) : (cs ++ rest).takeWhile p = cs := by
  have hnone : rest.takeWhile p = [] := by
    cases rest with
    | nil => rfl
    | cons c rest => exact List.takeWhile_cons_of_neg (by simpa using hrest)
  rw [List.takeWhile_append_of_pos hcs, hnone, List.append_nil]

theorem referenceParts_skip (cs rest : List Char) :
    referenceParts cs.length (cs ++ rest) = referenceParts 0 rest := by
  induction cs with
  | nil => rfl
  | cons c cs ih => exact ih

theorem referenceParts_dollar {cs rest : List Char} {name : List Char}
    (h : reference? (cs ++ rest) = some ⟨name, cs.length⟩) :
    referenceParts 0 ('$' :: (cs ++ rest)) = .reference name :: referenceParts 0 rest := by
  rw [referenceParts, if_pos rfl, h]
  exact congrArg _ (referenceParts_skip cs rest)

theorem referenceParts_literal {cs : List Char} (h : '$' ∉ cs) (rest : List Char) :
    referenceParts 0 (cs ++ rest) = cs.map .char ++ referenceParts 0 rest := by
  induction cs with
  | nil => rfl
  | cons c cs ih =>
    rw [List.mem_cons, not_or] at h
    rw [List.cons_append, referenceParts, if_neg (Ne.symm h.1), ih h.2]
    rfl

theorem takeWhile_brace {name rest : List Char} (h : '\x7d' ∉ name)
    (hrest : ¬rest.head?.any (· ≠ '\x7d')) : (name ++ rest).takeWhile (· ≠ '\x7d') = name :=
  takeWhile_append_of_head? (fun _ hc => decide_eq_true (ne_of_mem_of_not_mem hc h)) hrest

theorem reference?_brace {name rest : List Char} (h : '\x7d' ∉ name) :
    reference? (('\x7b' :: name ++ ['\x7d']) ++ rest) =
      some ⟨name, ('\x7b' :: name ++ ['\x7d']).length⟩ := by
  have happend : ('\x7b' :: name ++ ['\x7d']) ++ rest = '\x7b' :: (name ++ '\x7d' :: rest) := by simp
  rw [happend, reference?, takeWhile_brace h (by simp)]
  simp
  omega

theorem reference?_unclosed {name : List Char} (h : '\x7d' ∉ name) :
    reference? ('\x7b' :: name) = some ⟨name, ('\x7b' :: name).length⟩ := by
  have hname : (name ++ []).takeWhile (· ≠ '\x7d') = name := takeWhile_brace h (by simp)
  rw [List.append_nil] at hname
  rw [reference?, hname]
  simp
  omega

theorem reference?_of_ne_brace {cs : List Char} (h : ∀ inner, cs ≠ '\x7b' :: inner) :
    reference? cs =
      if cs.takeWhile isNameChar = [] then none
      else some ⟨cs.takeWhile isNameChar, (cs.takeWhile isNameChar).length⟩ := by
  unfold reference?
  split
  · next inner => exact absurd rfl (h inner)
  · rfl

theorem reference?_bare {name rest : List Char} (hne : name ≠ []) (hname : name.all isNameChar)
    (hrest : ¬rest.head?.any isNameChar) :
    reference? (name ++ rest) = some ⟨name, name.length⟩ := by
  have htake : (name ++ rest).takeWhile isNameChar = name :=
    takeWhile_append_of_head? (List.all_eq_true.mp hname) hrest
  have hbrace : ∀ inner, name ++ rest ≠ '\x7b' :: inner := by
    intro inner heq
    rw [heq, List.takeWhile_cons_of_neg (by decide)] at htake
    exact hne htake.symm
  rw [reference?_of_ne_brace hbrace, htake, if_neg hne]

theorem reference?_eq_none {cs : List Char}
    (h : ¬cs.head?.any fun c => c == '\x7b' || isNameChar c) : reference? cs = none := by
  cases cs with
  | nil => rfl
  | cons c cs =>
    simp only [List.head?_cons, Option.any_some, Bool.or_eq_true, beq_iff_eq, not_or] at h
    rw [reference?_of_ne_brace fun inner heq => h.1 (List.cons.inj heq).1,
      List.takeWhile_cons_of_neg h.2, if_pos rfl]

/-- The parts that a piece is scanned as. -/
def SettingPiece.parts : SettingPiece → List ReferencePart
  | literal text => text.toList.map .char
  | braced name | bare name | unclosed name => [.reference name.toList]
  | dollar => [.char '$']

/-- **The scanner comes to the end of a piece** and goes on with what follows it. -/
theorem referenceParts_append {p : SettingPiece} {rest : List Char} (h : p.FitsBefore rest) :
    referenceParts 0 (p.chars ++ rest) = p.parts ++ referenceParts 0 rest := by
  cases p with
  | literal text => exact referenceParts_literal h rest
  | braced name => exact referenceParts_dollar (reference?_brace h)
  | bare name =>
    obtain ⟨hne, hname, hrest⟩ := h
    exact referenceParts_dollar (reference?_bare (by simpa using hne) hname hrest)
  | unclosed name =>
    obtain ⟨hname, rfl⟩ := h
    exact referenceParts_dollar ((congrArg reference? (List.append_nil _)).trans
      (reference?_unclosed hname))
  | dollar =>
    change referenceParts 0 ('$' :: rest) = _
    rw [referenceParts, if_pos rfl, reference?_eq_none h]
    rfl

/-! ## Values -/

/-- The characters that a piece stands for, if its variable is set. -/
def SettingPiece.expand (env : Environment) (p : SettingPiece) :
    Except MissingVariable (List Char) :=
  match p.unset? env with
  | some name => .error ⟨name⟩
  | none => .ok (p.value env).toList

theorem mapM_expand_char (env : Environment) (cs : List Char) :
    (cs.map .char).mapM (ReferencePart.expand env) = .ok (cs.map fun c => [c]) := by
  induction cs with
  | nil => rfl
  | cons c cs ih =>
    rw [List.map_cons, List.mapM_cons, ih]
    rfl

theorem mapM_expand_reference (env : Environment) (name : String) :
    ([.reference name.toList].mapM (ReferencePart.expand env)).map List.flatten =
      (SettingPiece.braced name).expand env := by
  rw [List.mapM_cons, List.mapM_nil, ReferencePart.expand, String.ofList_toList]
  simp only [SettingPiece.expand, SettingPiece.unset?, SettingPiece.refersTo?, SettingPiece.value,
    Option.filter_some]
  cases env name with
  | none => rfl
  | some value => exact congrArg Except.ok (List.append_nil _)

theorem mapM_expand_parts (env : Environment) (p : SettingPiece) :
    (p.parts.mapM (ReferencePart.expand env)).map List.flatten = p.expand env := by
  cases p with
  | literal text =>
    rw [SettingPiece.parts, mapM_expand_char]
    exact congrArg Except.ok ((List.flatMap_def ..).symm.trans (List.flatMap_singleton' _))
  | braced name => exact mapM_expand_reference env name
  | bare name => exact mapM_expand_reference env name
  | unclosed name => exact mapM_expand_reference env name
  | dollar =>
    have hchars : ['$'] = "$".toList := by decide
    exact congrArg Except.ok hchars

/-- **A piece is expanded by itself.** -/
theorem expandChars_append {env : Environment} {p : SettingPiece} {rest : List Char}
    (h : p.FitsBefore rest) :
    expandChars env (p.chars ++ rest) = do
      let before ← p.expand env
      let after ← expandChars env rest
      return before ++ after := by
  rw [expandChars, referenceParts_append h, List.mapM_append, ← mapM_expand_parts, expandChars]
  cases p.parts.mapM (ReferencePart.expand env) with
  | error e => rfl
  | ok before =>
    cases (referenceParts 0 rest).mapM (ReferencePart.expand env) with
    | error e => rfl
    | ok after => exact congrArg Except.ok List.flatten_append

theorem expandChars_eq {env : Environment} {ps : List SettingPiece} (h : FitTogether ps) :
    expandChars env (ps.flatMap (·.chars)) =
      match firstUnset? env ps with
      | some name => .error ⟨name⟩
      | none => .ok (ps.flatMap fun p => (p.value env).toList) := by
  induction ps with
  | nil => rfl
  | cons p ps ih =>
    rw [List.flatMap_cons, expandChars_append h.1, ih h.2, SettingPiece.expand, firstUnset?_cons]
    cases p.unset? env with
    | some name => rfl
    | none => cases firstUnset? env ps <;> rfl

/-! ## Texts -/

theorem not_any_head?_dropWhile (p : Char → Bool) (cs : List Char) :
    ¬(cs.dropWhile p).head?.any p := by
  have hhead := List.head?_dropWhile_not p cs
  cases hcs : (cs.dropWhile p).head? with
  | none => simp
  | some c => simpa [hcs] using hhead

theorem exists_piece_brace (inner : List Char) :
    ∃ (p : SettingPiece) (rest : List Char), '$' :: '\x7b' :: inner = p.chars ++ rest ∧
      p.FitsBefore rest ∧ rest.length ≤ inner.length := by
  have hname : '\x7d' ∉ inner.takeWhile (· ≠ '\x7d') := fun hmem => by
    simpa using List.all_eq_true.mp List.all_takeWhile _ hmem
  have hsplit := List.takeWhile_append_dropWhile (p := (· ≠ '\x7d')) (l := inner)
  have hstop := not_any_head?_dropWhile (· ≠ '\x7d') inner
  generalize inner.takeWhile (· ≠ '\x7d') = name at hname hsplit
  cases htail : inner.dropWhile (· ≠ '\x7d') with
  | nil =>
    rw [htail] at hsplit
    exact ⟨.unclosed (String.ofList name), [], by simp [SettingPiece.chars, ← hsplit],
      ⟨by simpa using hname, rfl⟩, Nat.zero_le _⟩
  | cons d tail =>
    rw [htail] at hsplit hstop
    have hbrace : d = '\x7d' := by simpa using hstop
    subst hbrace
    refine ⟨.braced (String.ofList name), tail, by simp [SettingPiece.chars, ← hsplit],
      by simpa [SettingPiece.FitsBefore] using hname, ?_⟩
    simp [← hsplit]
    omega

theorem exists_piece_name {cs : List Char} (hopen : ∀ inner, cs ≠ '\x7b' :: inner) :
    ∃ (p : SettingPiece) (rest : List Char), '$' :: cs = p.chars ++ rest ∧ p.FitsBefore rest ∧
      rest.length ≤ cs.length := by
  have hsplit := List.takeWhile_append_dropWhile (p := isNameChar) (l := cs)
  have hstop := not_any_head?_dropWhile isNameChar cs
  by_cases hname : cs.takeWhile isNameChar = []
  · rw [hname, List.nil_append] at hsplit
    rw [hsplit] at hstop
    refine ⟨.dollar, cs, rfl, ?_, Nat.le_refl _⟩
    cases cs with
    | nil => simp [SettingPiece.FitsBefore]
    | cons d cs =>
      have hbrace : d ≠ '\x7b' := fun heq => hopen cs (heq ▸ rfl)
      simpa [SettingPiece.FitsBefore, hbrace] using hstop
  · refine ⟨.bare (String.ofList (cs.takeWhile isNameChar)), cs.dropWhile isNameChar,
      by simp [SettingPiece.chars, hsplit], ⟨?_, by simp, hstop⟩,
      (List.dropWhile_suffix _).length_le⟩
    simpa using hname

/-- A text begins with a piece that may stand before the rest of it. -/
theorem exists_piece (c : Char) (cs : List Char) :
    ∃ (p : SettingPiece) (rest : List Char), c :: cs = p.chars ++ rest ∧ p.FitsBefore rest ∧
      rest.length ≤ cs.length := by
  by_cases hdollar : c = '$'
  · subst hdollar
    by_cases hopen : ∃ inner, cs = '\x7b' :: inner
    · obtain ⟨inner, rfl⟩ := hopen
      obtain ⟨p, rest, hcs, hp, hlength⟩ := exists_piece_brace inner
      exact ⟨p, rest, hcs, hp, Nat.le_succ_of_le hlength⟩
    · exact exists_piece_name (not_exists.mp hopen)
  · exact ⟨.literal (String.singleton c), cs, by simp [SettingPiece.chars],
      by simpa [SettingPiece.FitsBefore] using Ne.symm hdollar, Nat.le_refl _⟩

theorem exists_fitTogether_chars : ∀ cs : List Char,
    ∃ ps, FitTogether ps ∧ ps.flatMap (·.chars) = cs
  | [] => ⟨[], trivial, rfl⟩
  | c :: cs => by
    obtain ⟨p, rest, hcs, hp, hlength⟩ := exists_piece c cs
    obtain ⟨ps, hps, rfl⟩ := exists_fitTogether_chars rest
    exact ⟨p :: ps, ⟨hp, hps⟩, hcs.symm⟩
termination_by cs => cs.length
decreasing_by exact Nat.lt_succ_of_le hlength

/-- **Every text is made up of pieces** that fit together. -/
theorem exists_fitTogether (text : String) : ∃ ps, FitTogether ps ∧ settingText ps = text := by
  obtain ⟨ps, hfit, hchars⟩ := exists_fitTogether_chars text.toList
  exact ⟨ps, hfit, by rw [settingText, hchars, String.ofList_toList]⟩

/-- **The expansion of a setting.** Pieces that fit together stand for the texts of their values one
after the other, or for an error with the first variable that is not set. Pieces that may stand
before anything fit together in any order, and every text is made up of pieces. -/
theorem expandSetting_pieces (env : Environment) :
    (∀ ps, FitTogether ps → expandSetting env (settingText ps) =
      match firstUnset? env ps with
      | some name => .error (.missingEnvVar name)
      | none => .ok (String.join (ps.map (·.value env)))) ∧
    (∀ ps : List SettingPiece, (∀ p ∈ ps, p.IsClosed) → FitTogether ps) ∧
    ∀ text, ∃ ps, FitTogether ps ∧ settingText ps = text := by
  refine ⟨fun ps hps => ?_, fun ps hclosed => ?_, exists_fitTogether⟩
  · rw [expandSetting, expandEnv, settingText, String.toList_ofList, expandChars_eq hps]
    cases firstUnset? env ps with
    | some name => rfl
    | none =>
      refine congrArg Except.ok ?_
      rw [← String.toList_inj, String.toList_ofList, String.toList_join, List.flatMap_map]
  · induction ps with
    | nil => trivial
    | cons p ps ih =>
      exact ⟨(hclosed p List.mem_cons_self).fitsBefore _,
        ih fun q hq => hclosed q (List.mem_cons_of_mem p hq)⟩

/-- A value that looks like a reference is not expanded again. -/
theorem expandSetting_pieces_once :
    let env : Environment := fun name => [("NAME", "$\x7bHOST\x7d"), ("HOST", "db")].lookup name
    let ps : List SettingPiece :=
      [.literal "u-", .braced "NAME", .bare "HOST", .dollar, .literal " 5"]
    let unset : List SettingPiece := [.braced "HOST", .braced "PORT", .literal "/", .braced "USER"]
    FitTogether ps ∧ expandSetting env "u-$\x7bNAME\x7d$HOST$ 5" = .ok "u-$\x7bHOST\x7ddb$ 5" ∧
      (∀ p ∈ unset, p.IsClosed) ∧
      expandSetting env "$\x7bHOST\x7d$\x7bPORT\x7d/$\x7bUSER\x7d" =
        .error (.missingEnvVar "PORT") := by
  intro env ps unset
  have hfit : FitTogether ps := by decide
  have hclosed : ∀ p ∈ unset, p.IsClosed := by simp [unset, SettingPiece.IsClosed]
  have hexpand := (expandSetting_pieces env).1 ps hfit
  have hmissing := (expandSetting_pieces env).1 unset ((expandSetting_pieces env).2.1 unset hclosed)
  have htext : settingText ps = "u-$\x7bNAME\x7d$HOST$ 5" := by decide
  have hunset : settingText unset = "$\x7bHOST\x7d$\x7bPORT\x7d/$\x7bUSER\x7d" := by decide
  have hvalue : String.join (ps.map (·.value env)) = "u-$\x7bHOST\x7ddb$ 5" := by decide
  rw [htext] at hexpand
  rw [hunset] at hmissing
  exact ⟨hfit, hexpand.trans (congrArg Except.ok hvalue), hclosed, hmissing⟩

end ExperimentQuery
