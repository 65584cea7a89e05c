import ExperimentQuery.Plan.Value
import ExperimentQuery.Proofs.Script.Quoting

/-!
# Properties as column texts

A script writes a property as a chain of names in brackets and quotes. As the text of a column the
chain is an expression over the event record, and its names are read back whatever brackets, dots
and blanks they hold, if they are written as they are.

* `WrittenAsIs`, `bracketChain`, `toList_text_property`: the text of a property;
* `bracketNames_append`, **`bracketPath?_bracketChain`**: the names read back;
* `referenceValue_bracketChain`: the value of a chain;
* **`ValueExpr.ofColumn_text_property`**: a property as the text of a column.
-/

namespace ExperimentQuery

/-- Whether a literal writes a name as it is. -/
def WrittenAsIs (name : String) : Prop :=
  ∀ c ∈ name.toList, c ≠ '"' ∧ c ≠ '\\' ∧ 0x20 ≤ c.toNat ∧ c ≠ '\u2028' ∧ c ≠ '\u2029'

instance : DecidablePred WrittenAsIs := fun name => List.decidableBAll _ name.toList

/-- Names in brackets and quotes, one after the other. -/
def bracketChain (path : List String) : List Char :=
  path.flatMap fun name => '[' :: '"' :: (name.toList ++ ['"', ']'])

theorem bracketChain_cons (name : String) (path : List String) :
    bracketChain (name :: path) = '[' :: '"' :: (name.toList ++ '"' :: ']' :: bracketChain path) := by
  simp [bracketChain]

/-! ## Writing -/

theorem Script.escapeChars_of_writtenAsIs {name : String} (h : WrittenAsIs name) :
    escapeChars name.toList = name.toList := by
  have hchar : ∀ c ∈ name.toList, escapeChar c = [c] := by
    intro c hc
    obtain ⟨hquote, hbackslash, hcontrol, hline, hparagraph⟩ := h c hc
    have hspecial : ∀ d : Char, d.toNat < 0x20 → c ≠ d := by
      rintro d hd rfl
      omega
    simp only [escapeChar, hquote, hbackslash, hline, hparagraph, hspecial '\n' (by decide),
      hspecial '\r' (by decide), hspecial '\t' (by decide), Nat.not_lt.mpr hcontrol, or_self,
      if_false]
  rw [escapeChars, List.flatMap_congr hchar, List.flatMap_singleton']

theorem toList_text_str {name : String} (h : WrittenAsIs name) :
    (Script.Token.str name).text.toList = '"' :: (name.toList ++ ['"']) := by
  rw [Script.Token.text, Script.quoteString, String.toList_ofList, Script.quoteChars,
    Script.escapeChars_of_writtenAsIs h, List.cons_append]

/-- **The text of a property**, if its names are written as they are. -/
theorem toList_text_property {path : List String} (h : ∀ name ∈ path, WrittenAsIs name) :
    (Script.Expr.property path).text.toList = "event.properties".toList ++ bracketChain path := by
  have hchain : (Script.tokensText (path.flatMap fun name =>
      [.mark .lbracket, .str name, .mark .rbracket])).toList = bracketChain path := by
    induction path with
    | nil => rfl
    | cons name path ih =>
      obtain ⟨hname, hpath⟩ := List.forall_mem_cons.mp h
      simp only [List.flatMap_cons, List.cons_append, List.nil_append, Script.tokensText_cons,
        toList_text_str hname, ih hpath, bracketChain_cons, List.append_assoc]
      rfl
  have htokens : (Script.Expr.property path).tokens = [.ident "event", .mark .dot,
      .ident "properties"] ++ path.flatMap fun name => [.mark .lbracket, .str name, .mark .rbracket] :=
    Script.Expr.tokens_foldl_index path _
  simp only [Script.Expr.text, htokens, List.cons_append, List.nil_append, Script.tokensText_cons,
    hchain, ← List.append_assoc]
  rfl

/-! ## Reading -/

theorem bracketNames_cons {c : Char} (hc : c ≠ '"') (before cs : List Char) :
    bracketNames (some before) (c :: cs) = bracketNames (some (c :: before)) cs := by
  rw [bracketNames]
  · exact if_neg hc
  · rintro _ rfl
    exact absurd rfl hc

theorem bracketNames_append {name : List Char} (hname : '"' ∉ name) (before rest : List Char) :
    bracketNames (some before) (name ++ '"' :: ']' :: rest) =
      (bracketNames none rest).map ((before.reverse ++ name) :: ·) := by
  induction name generalizing before with
  | nil => simp [bracketNames]
  | cons c name ih =>
    obtain ⟨hc, hname⟩ := not_or.mp (mt List.mem_cons.mpr hname)
    rw [List.cons_append, bracketNames_cons (Ne.symm hc), ih hname, List.reverse_cons,
      List.append_assoc, List.singleton_append]

theorem bracketNames_bracketChain {path : List String} (h : ∀ name ∈ path, '"' ∉ name.toList) :
    bracketNames none (bracketChain path) = some (path.map String.toList) := by
  induction path with
  | nil => rfl
  | cons name path ih =>
    obtain ⟨hname, hpath⟩ := List.forall_mem_cons.mp h
    rw [bracketChain_cons, bracketNames, bracketNames_append hname, ih hpath]
    rfl

/-- **The names of a chain are read back**, whatever stands in them besides quotes. -/
theorem bracketPath?_bracketChain {path : List String} (hpath : path ≠ [])
    (h : ∀ name ∈ path, '"' ∉ name.toList) : bracketPath? (bracketChain path) = some path := by
  rw [bracketPath?, bracketNames_bracketChain h]
  cases path with
  | nil => exact absurd rfl hpath
  | cons name path => simp [List.map_map, Function.comp_def]

/-! ## Columns -/

theorem mentionsEvent_properties (cs : List Char) :
    mentionsEvent ("event.properties".toList ++ cs) = true := by
  have hdot : Unicode.isWord '.' = false := by decide
  simp [mentionsEvent, mentionsEventAfter, Text.stripWord?, hdot]

theorem getLast?_bracketChain {path : List String} (hpath : path ≠ []) :
    (bracketChain path).getLast? = some ']' := by
  obtain ⟨names, name, rfl⟩ := (List.eq_nil_or_concat path).resolve_left hpath
  have hends : bracketChain (names.concat name) =
      (bracketChain names ++ '[' :: '"' :: (name.toList ++ ['"'])) ++ [']'] := by
    simp [bracketChain]
  rw [hends, List.getLast?_concat]

/-- **The value of a chain** is that of the property with its names. -/
theorem referenceValue_bracketChain {text : String} {path : List String} (hpath : path ≠ [])
    (h : ∀ name ∈ path, '"' ∉ name.toList)
    (htext : text.toList = "event.properties".toList ++ bracketChain path) (e : Event) :
    ValueExpr.referenceValue text e = ValueExpr.propertyValue path e := by
  have hhead : text.toList.head? = some 'e' := by
    rw [htext]
    rfl
  have hlast : text.toList.getLast? = some ']' := by
    rw [htext, List.getLast?_append, getLast?_bracketChain hpath, Option.some_or]
  have htrim : Text.trimChars ([] ++ text.toList ++ []) = text.toList :=
    Text.trimChars_between nofun nofun (by rw [hhead]; decide) (by rw [hlast]; decide)
  rw [List.nil_append, List.append_nil] at htrim
  have hstrip : Text.stripWord? "event.properties".toList text.toList = some (bracketChain path) := by
    rw [htext]
    rfl
  obtain ⟨cs, hchain⟩ : ∃ cs, bracketChain path = '[' :: cs := by
    cases path with
    | nil => exact absurd rfl hpath
    | cons name path => exact ⟨_, bracketChain_cons name path⟩
  have htime : text.toList ≠ "event.time".toList := by
    rw [htext]
    simp
  have hread := bracketPath?_bracketChain hpath h
  rw [hchain] at hstrip hread
  simp only [ValueExpr.referenceValue, htrim, if_neg htime, hstrip]
  exact congrArg (Option.bind · fun path => ValueExpr.propertyValue path e) hread

/-- **A property as the text of a column** is an expression over the event record that has the value
of the property, if its names are written as they are. -/
theorem ValueExpr.ofColumn_text_property {path : List String} (hpath : path ≠ [])
    (h : ∀ name ∈ path, WrittenAsIs name) (e : Event) :
    ofColumn (some (Script.Expr.property path).text) = raw (Script.Expr.property path).text ∧
    (ofColumn (some (Script.Expr.property path).text)).eval e = (property path).eval e := by
  have htext := toList_text_property h
  have hraw : ofColumn (some (Script.Expr.property path).text) =
      raw (Script.Expr.property path).text := by
    rw [ofColumn, htext, mentionsEvent_properties, if_pos rfl]
  have hquote : ∀ name ∈ path, '"' ∉ name.toList :=
    fun name hname hmem => absurd rfl (h name hname '"' hmem).1
  refine ⟨hraw, ?_⟩
  rw [hraw, eval, eval]
  exact referenceValue_bracketChain hpath hquote htext e

/-- Names with a bracket, a dot and a blank, and an empty one. -/
theorem ValueExpr.ofColumn_text_property_brackets :
    let path := ["a][b", "x.y z", ""]
    let e : Event := {
      distinctId := "u", name := "n", time := 0,
      properties := [("a][b", .obj [("x.y z", .obj [("", .int 3)])])] }
    ofColumn (some (Script.Expr.property path).text) = raw (Script.Expr.property path).text ∧
    (ofColumn (some (Script.Expr.property path).text)).eval e = (property path).eval e ∧
    (property path).eval e = some (.ofFloat 3) := by
  intro path e
  have hpath : path ≠ [] := by simp [path]
  have hcolumn := ofColumn_text_property hpath (by decide) e
  exact ⟨hcolumn.1, hcolumn.2, rfl⟩

end ExperimentQuery
