import ExperimentQuery.Script.Expr
import Mathlib.Data.List.Basic

/-!
# The grammar of expressions

Expressions are written without parentheses of their own, so what a text of tokens means depends on
how tightly its operators bind. A reader with a stack groups tokens by the precedence and
associativity of the script's language; which trees it gives back is said by a grammar of levels.

* `BinaryOp.level`, **`Expr.Fits`**: levels, and the trees that need no further parentheses;
* `Frame`, `Reading`, `settle`, `Reading.step`, **`parse?`**: the reader, one token after another;
* `Reads.run_closes`, `run_listed`, **`Reading.reads_of_fits`**: the tokens of a tree that fits are
  read as that tree;
* `Frame.Stands`, `settle_spec`, `Reading.step_sound`: what has been read fits, and is written with
  the tokens read;
* **`parse_eq_some_iff`**: the reader gives back the tree that fits and is written with the tokens;
* `parse_tokens_iff`, `Expr.Fits.eq_of_code`: the trees read back from their own tokens, of which no
  two are written alike.
-/

namespace ExperimentQuery.Script

/-! ## Levels -/

/-- How tightly a binary operator binds. -/
def BinaryOp.level : BinaryOp → Nat
  | or => 0
  | and => 1
  | strictEq | strictNe | looseEq | looseNe => 2
  | lt | le | gt | ge => 3
  | add | sub => 4

theorem BinaryOp.level_le (op : BinaryOp) : op.level ≤ 4 := by cases op <;> decide

/-- The binary operator that a mark stands for. -/
def Mark.binaryOp? (m : Mark) : Option BinaryOp := BinaryOp.all.find? (·.mark = m)

theorem BinaryOp.binaryOp?_mark (op : BinaryOp) : op.mark.binaryOp? = some op := by
  cases op <;> decide

theorem Mark.mark_of_binaryOp? {m : Mark} {op : BinaryOp} (h : m.binaryOp? = some op) :
    op.mark = m := by simpa using List.find?_some h

/-- Negation binds tighter than every binary operator. -/
def notLevel : Nat := 5

/-- Members, indices, calls and what stands alone bind tightest. -/
def topLevel : Nat := 6

/-- **A tree that reads as it is written wherever operators of level `n` and above may stand**:
binary operators group to the left, and whatever stands between brackets starts anew. -/
inductive Expr.Fits : Nat → Expr → Prop
  | ident {n : Nat} (name : String) : Fits n (.ident name)
  | number {n : Nat} (x : Float) : Fits n (.number x)
  | str {n : Nat} (s : String) : Fits n (.str s)
  | raw {n : Nat} (s : String) : Fits n (.raw s)
  | member {n : Nat} {e : Expr} (name : String) : Fits topLevel e → Fits n (.member e name)
  | index {n : Nat} {e key : Expr} : Fits topLevel e → Fits 0 key → Fits n (.index e key)
  | call {n : Nat} {e : Expr} {args : List Expr} :
    Fits topLevel e → (∀ a ∈ args, Fits 0 a) → Fits n (.call e args)
  | array {n : Nat} {items : List Expr} : (∀ a ∈ items, Fits 0 a) → Fits n (.array items)
  | paren {n : Nat} {e : Expr} : Fits 0 e → Fits n (.paren e)
  | not {n : Nat} {e : Expr} : n ≤ notLevel → Fits notLevel e → Fits n (.not e)
  | binary {n : Nat} {op : BinaryOp} {l r : Expr} :
    n ≤ op.level → Fits op.level l → Fits (op.level + 1) r → Fits n (.binary op l r)

theorem Expr.Fits.mono {n m : Nat} {e : Expr} (h : Fits n e) (hm : m ≤ n) : Fits m e := by
  cases h with
  | ident name => exact .ident name
  | number x => exact .number x
  | str s => exact .str s
  | raw s => exact .raw s
  | member name he => exact .member name he
  | index he hkey => exact .index he hkey
  | call he hargs => exact .call he hargs
  | array hitems => exact .array hitems
  | paren he => exact .paren he
  | not hn he => exact .not (Nat.le_trans hm hn) he
  | binary hn hl hr => exact .binary (Nat.le_trans hm hn) hl hr

/-! ## Tokens without spaces -/

/-- Whether a token is a space. -/
def Token.isSpace : Token → Bool
  | .mark .space => true
  | _ => false

/-- Some tokens without the spaces among them. -/
def solid (ts : List Token) : List Token := ts.filter fun t => !t.isSpace

/-- The tokens of an expression without the spaces. -/
def Expr.code (e : Expr) : List Token := solid e.tokens

@[simp]
theorem solid_append (ts us : List Token) : solid (ts ++ us) = solid ts ++ solid us :=
  List.filter_append ts us

@[simp]
theorem solid_space (ts : List Token) : solid (.mark .space :: ts) = solid ts := rfl

theorem solid_mark {m : Mark} (hm : m ≠ .space) (ts : List Token) :
    solid (.mark m :: ts) = .mark m :: solid ts := by
  cases m <;> first | rfl | exact absurd rfl hm

theorem BinaryOp.mark_ne_space (op : BinaryOp) : op.mark ≠ .space := by cases op <;> decide

namespace Expr

@[simp]
theorem code_member (e : Expr) (name : String) :
    (member e name).code = e.code ++ [.mark .dot, .ident name] := by simp [code, tokens]; rfl

@[simp]
theorem code_index (e key : Expr) :
    (index e key).code = e.code ++ .mark .lbracket :: key.code ++ [.mark .rbracket] := by
  simp [code, tokens, solid_mark]; rfl

@[simp]
theorem code_binary (op : BinaryOp) (l r : Expr) :
    (binary op l r).code = l.code ++ .mark op.mark :: r.code := by
  simp [code, tokens, solid_mark op.mark_ne_space]

@[simp]
theorem code_not (e : Expr) : (not e).code = .mark .not :: e.code := rfl

@[simp]
theorem code_paren (e : Expr) : (paren e).code = .mark .lparen :: e.code ++ [.mark .rparen] := by
  simp [code, tokens, solid_mark]; rfl

/-- The tokens of some expressions with commas between them and no spaces. -/
def listCode (es : List Expr) : List Token := solid (listTokens es)

@[simp]
theorem code_call (e : Expr) (args : List Expr) :
    (call e args).code = e.code ++ .mark .lparen :: listCode args ++ [.mark .rparen] := by
  simp [code, listCode, tokens, solid_mark]; rfl

@[simp]
theorem code_array (items : List Expr) :
    (array items).code = .mark .lbracket :: listCode items ++ [.mark .rbracket] := by
  simp [code, listCode, tokens, solid_mark]; rfl

@[simp]
theorem listCode_nil : listCode [] = [] := by simp [listCode, listTokens, solid]

@[simp]
theorem listCode_singleton (e : Expr) : listCode [e] = e.code := by
  simp [listCode, listTokens, code]

@[simp]
theorem listCode_cons_cons (e f : Expr) (es : List Expr) :
    listCode (e :: f :: es) = e.code ++ .mark .comma :: listCode (f :: es) := by
  simp [listCode, listTokens, code, solid_mark]

theorem listCode_concat (es : List Expr) (e : Expr) :
    listCode (es ++ [e]) = es.flatMap (fun f => f.code ++ [.mark .comma]) ++ e.code := by
  induction es with
  | nil => simp
  | cons f es ih =>
    obtain ⟨g, gs, hgs⟩ : ∃ g gs, es ++ [e] = g :: gs := List.exists_cons_of_ne_nil (by simp)
    rw [List.cons_append, hgs, listCode_cons_cons, ← hgs, ih]
    simp

/-- A list of expressions in brackets: the arguments of a call, or an array. -/
def listed : Option Expr → List Expr → Expr
  | some callee, args => call callee args
  | none, items => array items

end Expr

/-! ## The reader -/

/-- What has been begun and waits for its end. -/
inductive Frame where
  | operand (op : BinaryOp) (left : Expr)
  | not
  | paren
  | index (object : Expr)
  | items (callee? : Option Expr) (done : List Expr)

/-- Ends the operations on the stack that bind at least as tightly as level `n`. -/
def settle (n : Nat) : List Frame → Expr → List Frame × Expr
  | .operand op l :: σ, e =>
    if n ≤ op.level then settle n σ (.binary op l e) else (.operand op l :: σ, e)
  | .not :: σ, e => if n ≤ notLevel then settle n σ (.not e) else (.not :: σ, e)
  | σ, e => (σ, e)

/-- How far the reader is: before an operand, after one, or after the dot of a member. -/
inductive Reading where
  | expects (stack : List Frame)
  | has (stack : List Frame) (e : Expr)
  | names (stack : List Frame) (e : Expr)

namespace Reading

/-- A mark where an operand is expected; an empty list may end there. -/
def opens (σ : List Frame) : Mark → Option Reading
  | .not => some (expects (.not :: σ))
  | .lparen => some (expects (.paren :: σ))
  | .lbracket => some (expects (.items none [] :: σ))
  | .rparen =>
    match σ with
    | .items (some callee) [] :: σ => some (has σ (.call callee []))
    | _ => none
  | .rbracket =>
    match σ with
    | .items none [] :: σ => some (has σ (.array []))
    | _ => none
  | _ => none

/-- A comma or a closing bracket after everything before it has been settled. -/
def closes : List Frame → Expr → Mark → Option Reading
  | .paren :: σ, e, .rparen => some (has σ (.paren e))
  | .items (some callee) args :: σ, e, .rparen => some (has σ (.call callee (args ++ [e])))
  | .index object :: σ, e, .rbracket => some (has σ (.index object e))
  | .items none items :: σ, e, .rbracket => some (has σ (.array (items ++ [e])))
  | .items callee? done :: σ, e, .comma => some (expects (.items callee? (done ++ [e]) :: σ))
  | _, _, _ => none

/-- A mark after an operand. -/
def continues (σ : List Frame) (e : Expr) (m : Mark) : Option Reading :=
  match m.binaryOp?, m with
  | some op, _ =>
    let (σ, l) := settle op.level σ e
    some (expects (.operand op l :: σ))
  | none, .dot => some (names σ e)
  | none, .lbracket => some (expects (.index e :: σ))
  | none, .lparen => some (expects (.items (some e) [] :: σ))
  | none, m =>
    let (σ, e) := settle 0 σ e
    closes σ e m

/-- One token. -/
def step : Reading → Token → Option Reading
  | expects σ, .ident name => some (has σ (.ident name))
  | expects σ, .number x => some (has σ (.number x))
  | expects σ, .str s => some (has σ (.str s))
  | expects σ, .raw s => some (has σ (.raw s))
  | expects σ, .mark m => opens σ m
  | has σ e, .mark m => continues σ e m
  | names σ e, .ident name => some (has σ (.member e name))
  | _, _ => none

/-- The expression read, if nothing is left open. -/
def result? : Reading → Option Expr
  | has σ e =>
    match settle 0 σ e with
    | ([], e) => some e
    | _ => none
  | _ => none

/-- Some tokens, one after another. -/
def run (r : Reading) (ts : List Token) : Option Reading := ts.foldlM step r

end Reading

/-- **The expression that some tokens are read as**; spaces are dropped. -/
def parse? (ts : List Token) : Option Expr := ((Reading.expects []).run (solid ts)).bind (·.result?)

/-! ## Reading what fits -/

/-- Whether no operation on top of the stack takes an operand of level `n` for its own. -/
def Open (n : Nat) : List Frame → Prop
  | .operand op _ :: _ => op.level < n
  | .not :: _ => notLevel ≤ n
  | _ => True

theorem Open.mono {n m : Nat} {σ : List Frame} (h : Open n σ) (hm : n ≤ m) : Open m σ := by
  match σ, h with
  | [], _ | .paren :: _, _ | .index _ :: _, _ | .items _ _ :: _, _ => trivial
  | .operand op _ :: _, h => exact Nat.lt_of_lt_of_le h hm
  | .not :: _, h => exact Nat.le_trans h hm

theorem open_notLevel (σ : List Frame) : Open notLevel σ := by
  match σ with
  | [] | .paren :: _ | .index _ :: _ | .items _ _ :: _ => trivial
  | .operand op _ :: _ => exact Nat.lt_succ_of_le op.level_le
  | .not :: _ => exact Nat.le_refl _

theorem open_topLevel (σ : List Frame) : Open topLevel σ := (open_notLevel σ).mono (by decide)

/-- On an open stack nothing is settled. The level of negation is left out, since negation takes
operands of its own level. -/
theorem settle_eq_self {n : Nat} {σ : List Frame} (h : Open n σ) (hn : n ≠ notLevel) (e : Expr) :
    settle n σ e = (σ, e) := by
  match σ, h with
  | [], _ | .paren :: _, _ | .index _ :: _, _ | .items _ _ :: _, _ => rfl
  | .operand op _ :: _, h => exact if_neg (Nat.not_le.2 h)
  | .not :: _, h => exact if_neg (Nat.not_le.2 (Nat.lt_of_le_of_ne h hn.symm))

namespace Reading

theorem run_cons {r r' : Reading} {t : Token} (h : r.step t = some r') (ts : List Token) :
    r.run (t :: ts) = r'.run ts := by
  change (r.step t).bind (·.run ts) = r'.run ts
  rw [h, Option.bind_some]

theorem run_append {r r' : Reading} {ts : List Token} (h : r.run ts = some r')
    (us : List Token) : r.run (ts ++ us) = r'.run us := by
  change (ts ++ us).foldlM step r = r'.run us
  rw [List.foldlM_append]
  change (r.run ts).bind (·.run us) = r'.run us
  rw [h, Option.bind_some]

/-- A tree is read, on a stack that leaves it open, as what settles like it. -/
def Reads (n : Nat) (e : Expr) : Prop :=
  ∀ σ, Open n σ → ∃ σ' x, (expects σ).run e.code = some (has σ' x) ∧
    ∀ m ≤ n, settle m σ' x = settle m σ e

variable {n : Nat} {e : Expr}

theorem reads_of_run (h : ∀ σ, (expects σ).run e.code = some (has σ e)) : Reads n e :=
  fun σ _ => ⟨σ, e, h σ, fun _ _ => rfl⟩

theorem Reads.run (h : Reads topLevel e) (σ : List Frame) :
    (expects σ).run e.code = some (has σ e) := by
  obtain ⟨σ', x, hrun, hsettle⟩ := h σ (open_topLevel σ)
  have h' := hsettle topLevel (Nat.le_refl _)
  rw [settle_eq_self (open_topLevel σ') (by decide),
    settle_eq_self (open_topLevel σ) (by decide)] at h'
  obtain ⟨rfl, rfl⟩ := Prod.mk.inj h'
  exact hrun

/-- Where a tree ends, what has been read settles to the whole tree. -/
theorem Reads.run_settles (h : Reads 0 e) {σ : List Frame} (hσ : Open 0 σ) :
    ∃ σ' x, (expects σ).run e.code = some (has σ' x) ∧ settle 0 σ' x = (σ, e) := by
  obtain ⟨σ', x, hrun, hsettle⟩ := h σ hσ
  exact ⟨σ', x, hrun, (hsettle 0 (Nat.le_refl _)).trans (settle_eq_self hσ (by decide) e)⟩

theorem Reads.run_closes (h : Reads 0 e) (σ : List Frame) (hσ : Open 0 σ) {m : Mark}
    (hm : m ∈ [Mark.comma, .rparen, .rbracket]) {next : Reading}
    (hnext : closes σ e m = some next) (ts : List Token) :
    (expects σ).run (e.code ++ .mark m :: ts) = next.run ts := by
  obtain ⟨σ', x, hrun, hsettle⟩ := h.run_settles hσ
  have hstep : (has σ' x).step (.mark m) = closes (settle 0 σ' x).1 (settle 0 σ' x).2 m := by
    simp only [List.mem_cons, List.not_mem_nil, or_false] at hm
    rcases hm with rfl | rfl | rfl <;> rfl
  rw [hsettle] at hstep
  rw [run_append hrun, run_cons (hstep.trans hnext)]

/-- The mark at the end of a list. -/
def closing : Option Expr → Mark
  | some _ => .rparen
  | none => .rbracket

theorem run_listed (callee? : Option Expr) {es : List Expr} (hes : ∀ e ∈ es, Reads 0 e)
    (σ : List Frame) : ∀ done, (es = [] → done = []) →
    (expects (.items callee? done :: σ)).run (Expr.listCode es ++ [.mark (closing callee?)]) =
      some (has σ (.listed callee? (done ++ es))) := by
  induction es with
  | nil =>
    intro done hdone
    rw [hdone rfl]
    cases callee? <;> rfl
  | cons e es ih =>
    intro done _
    have he : Reads 0 e := hes e (by simp)
    cases es with
    | nil =>
      have hclose : closes (.items callee? done :: σ) e (closing callee?) =
          some (has σ (.listed callee? (done ++ [e]))) := by cases callee? <;> rfl
      rw [Expr.listCode_singleton]
      exact he.run_closes (.items callee? done :: σ) trivial (by cases callee? <;> simp [closing])
        hclose []
    | cons f es =>
      have hcomma : closes (.items callee? done :: σ) e .comma =
          some (expects (.items callee? (done ++ [e]) :: σ)) := by cases callee? <;> rfl
      rw [Expr.listCode_cons_cons, List.append_assoc, List.cons_append,
        he.run_closes (.items callee? done :: σ) trivial (by decide) hcomma,
        ih (fun e he => hes e (by simp [he])) (done ++ [e]) (by simp)]
      simp

theorem step_binary (σ : List Frame) (e : Expr) (op : BinaryOp) :
    (has σ e).step (.mark op.mark) =
      some (expects (.operand op (settle op.level σ e).2 :: (settle op.level σ e).1)) := by
  simp [step, continues, op.binaryOp?_mark]

/-- **The tokens of a tree that fits are read as that tree.** -/
theorem reads_of_fits (h : e.Fits n) : Reads n e := by
  induction h with
  | ident name => exact reads_of_run fun σ => rfl
  | number x => exact reads_of_run fun σ => rfl
  | str s => exact reads_of_run fun σ => rfl
  | raw s => exact reads_of_run fun σ => rfl
  | member name _ ih =>
    refine reads_of_run fun σ => ?_
    rw [Expr.code_member, run_append (ih.run σ)]
    rfl
  | @index _ e key _ _ ih ihKey =>
    refine reads_of_run fun σ => ?_
    have hopen : (has σ e).step (.mark .lbracket) = some (expects (.index e :: σ)) := rfl
    rw [Expr.code_index, List.append_assoc, run_append (ih.run σ), List.cons_append,
      run_cons hopen]
    exact ihKey.run_closes (.index e :: σ) trivial (by decide) rfl []
  | @call _ e args _ _ ih ihArgs =>
    refine reads_of_run fun σ => ?_
    have hopen : (has σ e).step (.mark .lparen) = some (expects (.items (some e) [] :: σ)) := rfl
    rw [Expr.code_call, List.append_assoc, run_append (ih.run σ), List.cons_append,
      run_cons hopen]
    exact run_listed (some e) ihArgs σ [] fun _ => rfl
  | array _ ih =>
    refine reads_of_run fun σ => ?_
    have hopen : (expects σ).step (.mark .lbracket) = some (expects (.items none [] :: σ)) := rfl
    rw [Expr.code_array, List.cons_append, run_cons hopen]
    exact run_listed none ih σ [] fun _ => rfl
  | paren _ ih =>
    refine reads_of_run fun σ => ?_
    have hopen : (expects σ).step (.mark .lparen) = some (expects (.paren :: σ)) := rfl
    rw [Expr.code_paren, List.cons_append, run_cons hopen]
    exact ih.run_closes (.paren :: σ) trivial (by decide) rfl []
  | @not n e hn _ ih =>
    intro σ _
    obtain ⟨σ', x, hrun, hsettle⟩ := ih (.not :: σ) (Nat.le_refl _)
    have hopen : (expects σ).step (.mark .not) = some (expects (.not :: σ)) := rfl
    refine ⟨σ', x, by rw [Expr.code_not, run_cons hopen, hrun], fun m hm => ?_⟩
    have hm' : m ≤ notLevel := Nat.le_trans hm hn
    rw [hsettle m hm', settle, if_pos hm']
  | @binary n op l r hn _ _ ihLeft ihRight =>
    intro σ hσ
    -- the left operand is settled when the operator comes, the right one when the next one does
    have hσ' : Open op.level σ := hσ.mono hn
    have hlevel : op.level ≠ notLevel := Nat.ne_of_lt (Nat.lt_succ_of_le op.level_le)
    obtain ⟨σ₁, x, hleft, hsettleLeft⟩ := ihLeft σ hσ'
    obtain ⟨σ₂, y, hright, hsettleRight⟩ := ihRight (.operand op l :: σ) (Nat.lt_succ_self _)
    have hl : settle op.level σ₁ x = (σ, l) :=
      (hsettleLeft _ (Nat.le_refl _)).trans (settle_eq_self hσ' hlevel l)
    refine ⟨σ₂, y, ?_, fun m hm => ?_⟩
    · rw [Expr.code_binary, run_append hleft, run_cons (step_binary σ₁ x op), hl, hright]
    · have hm' : m ≤ op.level := Nat.le_trans hm hn
      rw [hsettleRight m (Nat.le_succ_of_le hm'), settle, if_pos hm']

end Reading

/-! ## What is read fits -/

/-- The tokens of what has been begun. -/
def Frame.code : Frame → List Token
  | operand op l => l.code ++ [.mark op.mark]
  | not => [.mark .not]
  | paren => [.mark .lparen]
  | index e => e.code ++ [.mark .lbracket]
  | items callee? done =>
    (match callee? with
    | some e => e.code ++ [.mark .lparen]
    | none => [.mark .lbracket]) ++ done.flatMap fun e => e.code ++ [.mark .comma]

/-- The tokens of a stack. -/
def stackCode : List Frame → List Token
  | [] => []
  | frame :: σ => stackCode σ ++ frame.code

/-- Whether all that a stack holds fits, each left operand on what lies below it. -/
def Stands : List Frame → Prop
  | [] => True
  | .operand op l :: σ => l.Fits op.level ∧ Open op.level σ ∧ Stands σ
  | .not :: σ => Stands σ
  | .paren :: σ => Stands σ
  | .index e :: σ => e.Fits topLevel ∧ Stands σ
  | .items callee? done :: σ =>
    (∀ e ∈ callee?, e.Fits topLevel) ∧ (∀ e ∈ done, e.Fits 0) ∧ Stands σ

/-- Settling keeps the tokens and leaves a tree of the level asked for on a stack open to it. -/
theorem settle_spec {n : Nat} (σ : List Frame) : ∀ {k : Nat} {e : Expr}, Stands σ → e.Fits k →
    Open k σ → n ≤ k → Stands (settle n σ e).1 ∧ (settle n σ e).2.Fits n ∧
      Open n (settle n σ e).1 ∧
      stackCode (settle n σ e).1 ++ (settle n σ e).2.code = stackCode σ ++ e.code := by
  induction σ with
  | nil => exact fun _ he _ hn => ⟨trivial, he.mono hn, trivial, rfl⟩
  | cons frame σ ih =>
    intro k e hσ he hk hn
    cases frame with
    | paren => exact ⟨hσ, he.mono hn, trivial, rfl⟩
    | index object => exact ⟨hσ, he.mono hn, trivial, rfl⟩
    | items callee? done => exact ⟨hσ, he.mono hn, trivial, rfl⟩
    | not =>
      rw [settle]
      split
      · rename_i hlevel
        have hnot : (Expr.not e).Fits notLevel := .not (Nat.le_refl _) (he.mono hk)
        obtain ⟨hstands, hfits, hopen, hcode⟩ := ih hσ hnot (open_notLevel σ) hlevel
        exact ⟨hstands, hfits, hopen, by simp [hcode, stackCode, Frame.code]⟩
      · rename_i hlevel
        exact ⟨hσ, he.mono hn, Nat.le_of_not_le hlevel, rfl⟩
    | operand op l =>
      obtain ⟨hl, hopen, hσ⟩ := hσ
      rw [settle]
      split
      · rename_i hlevel
        have hbinary : (Expr.binary op l e).Fits op.level := .binary (Nat.le_refl _) hl (he.mono hk)
        obtain ⟨hstands, hfits, hopen, hcode⟩ := ih hσ hbinary hopen hlevel
        exact ⟨hstands, hfits, hopen, by simp [hcode, stackCode, Frame.code]⟩
      · rename_i hlevel
        exact ⟨⟨hl, hopen, hσ⟩, he.mono hn, Nat.lt_of_not_le hlevel, rfl⟩

namespace Reading

/-- The tokens read so far. -/
def code : Reading → List Token
  | expects σ => stackCode σ
  | has σ e => stackCode σ ++ e.code
  | names σ e => stackCode σ ++ e.code ++ [.mark .dot]

/-- Whether all that has been read fits. -/
def Sound : Reading → Prop
  | expects σ => Stands σ
  | has σ e => Stands σ ∧ e.Fits topLevel
  | names σ e => Stands σ ∧ e.Fits topLevel

variable {r r' : Reading} {σ : List Frame} {e : Expr} {m : Mark}

theorem opens_sound (hσ : Stands σ) (h : opens σ m = some r') :
    r'.Sound ∧ r'.code = stackCode σ ++ [.mark m] := by
  unfold opens at h
  split at h
  · obtain rfl := Option.some.inj h
    exact ⟨hσ, rfl⟩
  · obtain rfl := Option.some.inj h
    exact ⟨hσ, rfl⟩
  · obtain rfl := Option.some.inj h
    exact ⟨⟨by simp, by simp, hσ⟩, by simp [code, stackCode, Frame.code]⟩
  · split at h
    · obtain rfl := Option.some.inj h
      exact ⟨⟨hσ.2.2, .call (hσ.1 _ rfl) (by simp)⟩, by simp [code, stackCode, Frame.code]⟩
    · simp at h
  · split at h
    · obtain rfl := Option.some.inj h
      exact ⟨⟨hσ.2.2, .array (by simp)⟩, by simp [code, stackCode, Frame.code]⟩
    · simp at h
  · simp at h

theorem closes_sound (hσ : Stands σ) (he : e.Fits 0) (h : closes σ e m = some r') :
    r'.Sound ∧ r'.code = stackCode σ ++ e.code ++ [.mark m] := by
  have hall {es : List Expr} (hes : ∀ a ∈ es, a.Fits 0) : ∀ a ∈ es ++ [e], a.Fits 0 := by
    simpa [or_imp, forall_and] using ⟨hes, he⟩
  unfold closes at h
  split at h
  · obtain rfl := Option.some.inj h
    exact ⟨⟨hσ, .paren he⟩, by simp [code, stackCode, Frame.code]⟩
  · obtain rfl := Option.some.inj h
    exact ⟨⟨hσ.2.2, .call (hσ.1 _ rfl) (hall hσ.2.1)⟩,
      by simp [code, stackCode, Frame.code, Expr.listCode_concat]⟩
  · obtain rfl := Option.some.inj h
    exact ⟨⟨hσ.2, .index hσ.1 he⟩, by simp [code, stackCode, Frame.code]⟩
  · obtain rfl := Option.some.inj h
    exact ⟨⟨hσ.2.2, .array (hall hσ.2.1)⟩,
      by simp [code, stackCode, Frame.code, Expr.listCode_concat]⟩
  · obtain rfl := Option.some.inj h
    exact ⟨⟨hσ.1, hall hσ.2.1, hσ.2.2⟩, by simp [code, stackCode, Frame.code]⟩
  · simp at h

theorem continues_sound (hσ : Stands σ) (he : e.Fits topLevel) (h : continues σ e m = some r') :
    r'.Sound ∧ r'.code = stackCode σ ++ e.code ++ [.mark m] := by
  unfold continues at h
  split at h
  · rename_i op hop
    obtain rfl := Option.some.inj h
    have hop' := op.level_le
    obtain ⟨hstands, hfits, hopen, hcode⟩ :=
      settle_spec σ hσ he (open_topLevel σ) (n := op.level) (by unfold topLevel; omega)
    refine ⟨⟨hfits, hopen, hstands⟩, ?_⟩
    rw [code, stackCode, Frame.code, Mark.mark_of_binaryOp? hop, ← List.append_assoc, hcode]
  · obtain rfl := Option.some.inj h
    exact ⟨⟨hσ, he⟩, rfl⟩
  · obtain rfl := Option.some.inj h
    exact ⟨⟨he, hσ⟩, by simp [code, stackCode, Frame.code]⟩
  · obtain rfl := Option.some.inj h
    exact ⟨⟨by simpa using he, by simp, hσ⟩, by simp [code, stackCode, Frame.code]⟩
  · obtain ⟨hstands, hfits, -, hcode⟩ :=
      settle_spec σ hσ he (open_topLevel σ) (n := 0) (Nat.zero_le _)
    rw [← hcode]
    exact closes_sound hstands hfits h

/-- **One token keeps what has been read sound, and is added to the tokens read.** -/
theorem step_sound {t : Token} (hr : r.Sound) (h : r.step t = some r') :
    r'.Sound ∧ r'.code = r.code ++ [t] := by
  unfold step at h
  split at h
  · obtain rfl := Option.some.inj h
    exact ⟨⟨hr, .ident _⟩, rfl⟩
  · obtain rfl := Option.some.inj h
    exact ⟨⟨hr, .number _⟩, rfl⟩
  · obtain rfl := Option.some.inj h
    exact ⟨⟨hr, .str _⟩, rfl⟩
  · obtain rfl := Option.some.inj h
    exact ⟨⟨hr, .raw _⟩, rfl⟩
  · exact opens_sound hr h
  · exact continues_sound hr.1 hr.2 h
  · obtain rfl := Option.some.inj h
    exact ⟨⟨hr.1, .member _ hr.2⟩, by simp [code]⟩
  · simp at h

theorem run_sound {ts : List Token} (hr : r.Sound) (h : r.run ts = some r') :
    r'.Sound ∧ r'.code = r.code ++ ts := by
  induction ts generalizing r with
  | nil =>
    obtain rfl := Option.some.inj h
    exact ⟨hr, by simp⟩
  | cons t ts ih =>
    obtain ⟨next, hstep, hrun⟩ := Option.bind_eq_some_iff.1 h
    obtain ⟨hnext, hcode⟩ := step_sound hr hstep
    obtain ⟨hend, hcode'⟩ := ih hnext hrun
    exact ⟨hend, by simp [hcode', hcode]⟩

theorem result_sound (hr : r.Sound) (h : r.result? = some e) : e.Fits 0 ∧ e.code = r.code := by
  cases r with
  | expects σ => simp [result?] at h
  | names σ x => simp [result?] at h
  | has σ x =>
    obtain ⟨-, hfits, -, hcode⟩ :=
      settle_spec σ hr.1 hr.2 (open_topLevel σ) (n := 0) (Nat.zero_le _)
    rw [result?] at h
    split at h
    · rename_i heq
      obtain rfl := Option.some.inj h
      rw [heq] at hfits hcode
      exact ⟨hfits, hcode⟩
    · simp at h

end Reading

/-! ## What tokens mean -/

/-- **Some tokens are read as the tree that fits and is written with them.** -/
theorem parse_eq_some_iff {ts : List Token} {e : Expr} :
    parse? ts = some e ↔ e.Fits 0 ∧ e.code = solid ts := by
  constructor
  · intro h
    obtain ⟨r, hrun, hresult⟩ := Option.bind_eq_some_iff.1 h
    obtain ⟨hr, hcode⟩ := Reading.run_sound (r := .expects []) trivial hrun
    obtain ⟨hfits, hcode'⟩ := Reading.result_sound hr hresult
    exact ⟨hfits, hcode'.trans hcode⟩
  · rintro ⟨hfits, hcode⟩
    obtain ⟨σ, x, hrun, hsettle⟩ := (Reading.reads_of_fits hfits).run_settles (σ := []) trivial
    rw [parse?, ← hcode, hrun, Option.bind_some, Reading.result?, hsettle]

/-- A tree is read back from its own tokens exactly if it fits. -/
theorem parse_tokens_iff {e : Expr} : parse? e.tokens = some e ↔ e.Fits 0 :=
  parse_eq_some_iff.trans (and_iff_left rfl)

/-- Differences group to the left, whatever tree they were written for. -/
example :
    parse? (Expr.binary .sub (.ident "a") (.binary .sub (.ident "b") (.ident "c"))).tokens =
      some (.binary .sub (.binary .sub (.ident "a") (.ident "b")) (.ident "c")) := rfl

/-- No two trees that fit are written with the same tokens. -/
theorem Expr.Fits.eq_of_code {e f : Expr} (he : e.Fits 0) (hf : f.Fits 0) (h : e.code = f.code) :
    e = f :=
  Option.some.inj ((parse_eq_some_iff.2 ⟨he, rfl⟩).symm.trans (parse_eq_some_iff.2 ⟨hf, h.symm⟩))

end ExperimentQuery.Script
