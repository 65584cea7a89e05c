import ExperimentQuery.Plan.Predicate
import ExperimentQuery.Proofs.Script.NumberText
import ExperimentQuery.Proofs.Script.TextNumber
import ExperimentQuery.Script.Tests

/-!
# Conditions in scripts

The test that a script has for a condition is an expression. It is evaluated here on an event by the
rules of the script's language and compared with what the interpreter decides.

* `Value`: what an expression evaluates to, with the coercions to text and to a number;
* `BinaryOp.apply?`, **`Expr.eval?`**: the operators of conditions, and expressions;
* `eval_property`, `eval_equality`, `eval_relation`: the parts of a condition;
* `exists_text`, `exists_number`: what both sides make of a property;
* `DecidedAlike`, **`conditionExpr_agrees_iff`**: a script decides every condition, and as the
  interpreter does if and only if both coerce the property alike.
-/

namespace ExperimentQuery

/-- Whether a value is one without parts, and a finite one if it is a number. -/
def Json.isSimple : Json → Bool
  | null | bool _ | int _ | str _ => true
  | float x => x.isFinite
  | arr _ | obj _ | flaw => false

/-- Whether an operator tests for equality or its contrary. -/
def ConditionOp.isEquality : ConditionOp → Bool
  | .eq | .ne => true
  | _ => false

/-- Whether an operator compares numbers. -/
def ConditionOp.isRelation : ConditionOp → Bool
  | .gt | .ge | .lt | .le => true
  | _ => false

/-- Whether two numbers stand in the relation of an operator; the operators on texts have none. -/
def ConditionOp.relates (op : ConditionOp) (a b : Float) : Bool :=
  match op with
  | .gt => b < a
  | .ge => b <= a
  | .lt => a < b
  | .le => a <= b
  | .eq | .ne | .matching | .notMatching => false

/-- Whether a condition for equality, or its contrary, accepts a text. -/
def ConditionTest.acceptsText (t : ConditionTest) (s : String) : Bool :=
  if t.op = .eq then s == t.value else s != t.value

namespace Script

/-! ## Values -/

/-- What an expression evaluates to; an object is known by its own members. -/
inductive Value where
  | undefined
  | null
  | bool (b : Bool)
  | number (x : Float)
  | text (s : String)
  | object (members : List (String × Json))

namespace Value

/-- The value that a script has for a value of JSON; lists are not looked into. -/
def ofJson? : Json → Option Value
  | .null => some null
  | .bool b => some (bool b)
  | .int n => some (number (Decimal.wholeFloat n))
  | .float x => some (number x)
  | .str s => some (text s)
  | .obj members => some (object members)
  | .arr _ | .flaw => none

/-- The value of a property, which may be missing. -/
def ofProperty? : Option Json → Option Value
  | none => some undefined
  | some v => ofJson? v

/-- The member of an object. -/
def get? (name : String) : Value → Option Value
  | object members => ofProperty? (members.lookup name)
  | _ => none

/-- A value as text. -/
def toText? : Value → Option String
  | undefined => some "undefined"
  | null => some "null"
  | bool b => some (if b then "true" else "false")
  | number x => some (numberText x)
  | text s => some s
  | object _ => none

/-- A value as a number. -/
def toNumber? : Value → Option Float
  | undefined => some Decimal.nan
  | null => some 0
  | bool b => some (if b then 1 else 0)
  | number x => some x
  | text s => some (textNumber s)
  | object _ => none

/-- The sum of two values: their texts joined if one is a text, else the sum of their numbers. -/
def add? : Value → Value → Option Value
  | text s, w => w.toText?.map fun t => text (s ++ t)
  | v, text t => v.toText?.map fun s => text (s ++ t)
  | v, w => v.toNumber?.bind fun x => w.toNumber?.map fun y => number (x + y)

/-- Whether a value is `undefined` or `null`. -/
def isNothing : Value → Bool
  | undefined | null => true
  | _ => false

/-- Whether two values are loosely equal: texts as they are, nothing to nothing alone, and other
values as numbers. -/
def looseEq? : Value → Value → Option Bool
  | text s, text t => some (s == t)
  | v, w =>
    if v.isNothing || w.isNothing then some (v.isNothing && w.isNothing)
    else v.toNumber?.bind fun x => w.toNumber?.map fun y => x == y

/-- Whether two values stand in a relation of numbers; two texts are compared as texts, which is
left out here. -/
def compare? (rel : Float → Float → Bool) : Value → Value → Option Bool
  | text _, text _ => none
  | v, w => v.toNumber?.bind fun x => w.toNumber?.map fun y => rel x y

end Value

/-! ## Expressions -/

/-- The result of an operator that conditions use. -/
def BinaryOp.apply? (op : BinaryOp) (v w : Value) : Option Value :=
  match op with
  | .add => v.add? w
  | .looseEq => (v.looseEq? w).map .bool
  | .looseNe => (v.looseEq? w).map fun b => .bool !b
  | .lt => (v.compare? (fun a b => a < b) w).map .bool
  | .le => (v.compare? (fun a b => a <= b) w).map .bool
  | .gt => (v.compare? (fun a b => b < a) w).map .bool
  | .ge => (v.compare? (fun a b => b <= a) w).map .bool
  | .strictEq | .strictNe | .sub | .and | .or => none

/-- **The value of an expression on an event**, for the expressions that conditions use; there is
none where the evaluation fails. -/
def Expr.eval? (e : Event) : Expr → Option Value
  | .ident name => if name = "event" then Value.ofJson? e.toJson else none
  | .number x => some (.number x)
  | .str s => some (.text s)
  | .member object name => (object.eval? e).bind (Value.get? name)
  | .index object (.str name) => (object.eval? e).bind (Value.get? name)
  | .binary op l r => (l.eval? e).bind fun v => (r.eval? e).bind fun w => op.apply? v w
  | .paren inner => inner.eval? e
  | _ => none

open Value (ofProperty?)

theorem eval_property (e : Event) (name : String) :
    (Expr.property [name]).eval? e = ofProperty? (e.properties.lookup name) := by
  rfl

/-! ## Equality -/

/-- What the tests for equality compare with: the property as text. -/
theorem add_empty {v : Value} {s : String} (h : v.toText? = some s) :
    v.add? (.text "") = some (.text s) := by
  cases v with
  | text t =>
    cases h
    exact congrArg (some ∘ Value.text) String.append_empty
  | object members => cases h
  | _ =>
    cases h
    exact congrArg (some ∘ Value.text) String.append_empty

theorem eval_equality {t : ConditionTest} {e : Event} {v : Value} {s : String}
    (hop : t.op.isEquality) (hv : (Expr.property t.path).eval? e = some v)
    (hs : v.toText? = some s) :
    (conditionExpr t).eval? e = some (.bool (t.acceptsText s)) := by
  obtain ⟨path, op, value, pattern⟩ := t
  have hadd : (Expr.binary .add (Expr.property path) (.str "")).eval? e = some (.text s) := by
    rw [Expr.eval?, hv]
    exact add_empty hs
  cases op with
  | eq | ne =>
    unfold conditionExpr
    dsimp only
    rw [Expr.eval?, hadd]
    rfl
  | _ => cases hop

theorem holds_equality {t : ConditionTest} (hop : t.op.isEquality) (actual : Option Json) :
    t.holds actual = t.acceptsText (Json.asText actual) := by
  obtain ⟨path, op, value, pattern⟩ := t
  cases op with
  | eq | ne => rfl
  | _ => cases hop

theorem acceptsText_eq_iff (t : ConditionTest) (a b : String) :
    t.acceptsText a = t.acceptsText b ↔ a = b ∨ a ≠ t.value ∧ b ≠ t.value := by
  have hbeq : ((a == t.value) = (b == t.value)) ↔ a = b ∨ a ≠ t.value ∧ b ≠ t.value := by
    rw [Bool.eq_iff_iff, beq_iff_eq, beq_iff_eq]
    constructor
    · intro h
      by_cases ha : a = t.value
      · exact .inl (ha.trans (h.mp ha).symm)
      · exact .inr ⟨ha, mt h.mpr ha⟩
    · rintro (rfl | ⟨ha, hb⟩)
      · exact Iff.rfl
      · exact iff_of_false ha hb
  unfold ConditionTest.acceptsText
  split
  · exact hbeq
  · rw [bne, bne, Bool.not_inj_iff]
    exact hbeq

/-- The text that a script has for a property. -/
def scriptText? (actual : Option Json) : Option String :=
  (ofProperty? actual).bind Value.toText?

/-- Both sides write a property alike. -/
def PropertyWrittenAlike : Option Json → Prop
  | none => True
  | some v => WrittenAlike v

/-- A property without parts has a text, which is the interpreter's for those written alike. -/
theorem exists_text {actual : Option Json} (h : actual.all Json.isSimple) :
    ∃ v s, ofProperty? actual = some v ∧ v.toText? = some s ∧
      (s = Json.asText actual ↔ PropertyWrittenAlike actual) := by
  cases actual with
  | none => exact ⟨.undefined, _, rfl, rfl, iff_of_true rfl trivial⟩
  | some v =>
    cases v with
    | null => exact ⟨.null, _, rfl, rfl, iff_of_true rfl trivial⟩
    | bool b =>
      refine ⟨.bool b, _, rfl, rfl, iff_of_true ?_ trivial⟩
      cases b <;> rfl
    | str s => exact ⟨.text s, _, rfl, rfl, iff_of_true rfl trivial⟩
    | int n => exact ⟨.number _, _, rfl, rfl, numberText_eq_asText_int_iff n⟩
    | float x => exact ⟨.number x, _, rfl, rfl, numberText_eq_asText_float_iff h⟩
    | arr items | obj members | flaw => cases h

/-! ## Relations -/

theorem not_isEquality_of_isRelation {op : ConditionOp} (h : op.isRelation) : ¬op.isEquality := by
  cases op with
  | eq | ne => cases h
  | _ => exact Bool.false_ne_true

theorem relates_nan (op : ConditionOp) (b : Float) :
    op.relates Decimal.nan b = false := by
  cases op with
  | gt => exact decide_eq_false (not_lt_of_compare (compare_nan b))
  | ge => exact decide_eq_false (not_le_of_compare (compare_nan b))
  | lt => exact decide_eq_false (not_lt_of_compare (nan_compare b))
  | le => exact decide_eq_false (not_le_of_compare (nan_compare b))
  | _ => rfl

theorem compare_number {v : Value} {x : Float} (h : v.toNumber? = some x)
    (rel : Float → Float → Bool) (y : Float) : v.compare? rel (.number y) = some (rel x y) := by
  cases v <;> cases h <;> rfl

theorem eval_relation {t : ConditionTest} {e : Event} {v : Value} {x : Float}
    (hop : t.op.isRelation) (hv : (Expr.property t.path).eval? e = some v)
    (hx : v.toNumber? = some x) :
    (conditionExpr t).eval? e = some (.bool (t.op.relates x t.numericValue)) := by
  generalize hnumber : t.numericValue = y
  obtain ⟨path, op, value, pattern⟩ := t
  cases op with
  | gt | ge | lt | le =>
    unfold conditionExpr
    dsimp only
    rw [Expr.eval?, hv, hnumber]
    change ((v.compare? _ (.number y)).map Value.bool) = _
    rw [compare_number hx]
    rfl
  | _ => cases hop

theorem holds_relation {t : ConditionTest} (hop : t.op.isRelation) (actual : Option Json) :
    t.holds actual = (actual.bind Json.asNumber?).any fun x => t.op.relates x t.numericValue := by
  obtain ⟨path, op, value, pattern⟩ := t
  cases op with
  | gt | ge | lt | le => rfl
  | _ => cases hop

/-- The number that only one of the two sides finds in a property; a script has zero for `null`. -/
def oneSidedProperty? : Option Json → Option Float
  | some .null => some 0
  | some (.str s) => oneSidedText? s
  | _ => none

theorem asNumber?_of_number? {v : Json} {x : Float} (h : v.number? = some x) :
    v.asNumber? = some x := by
  have hsample : v.asSample? = some (.ofFloat x) := by
    cases v with
    | int n | float y => exact congrArg (Option.map Sample.ofFloat) h
    | _ => cases h
  rw [Json.asNumber?, hsample, Option.map_some, Sample.value_ofFloat]

/-- A property without parts has a number, which compares as the interpreter's does unless only one
of the two sides has one. -/
theorem exists_number {actual : Option Json} (h : actual.all Json.isSimple) (rel : Float → Bool)
    (hnan : rel Decimal.nan = false) :
    ∃ v x, ofProperty? actual = some v ∧ v.toNumber? = some x ∧
      (rel x = (actual.bind Json.asNumber?).any rel ↔
        ∀ y, oneSidedProperty? actual = some y → rel y = false) := by
  have hnone {p : Prop} (hp : p) {actual : Option Json} (h : oneSidedProperty? actual = none) :
      p ↔ ∀ y, oneSidedProperty? actual = some y → rel y = false :=
    iff_of_true hp fun y hy => nomatch h.symm.trans hy
  cases actual with
  | none => exact ⟨.undefined, _, rfl, rfl, hnone hnan rfl⟩
  | some v =>
    cases v with
    | null => exact ⟨.null, _, rfl, rfl, fun hx y hy => Option.some.inj hy ▸ hx, fun hx => hx 0 rfl⟩
    | bool b =>
      refine ⟨.bool b, _, rfl, rfl, hnone ?_ rfl⟩
      have hb : (Json.bool b).asNumber? = some (if b then 1 else 0) :=
        congrArg some (Sample.value_ofFloat _)
      rw [Option.bind_some, hb]
      rfl
    | str s =>
      refine ⟨.text s, textNumber s, rfl, rfl, ?_⟩
      rw [Option.bind_some]
      exact relates_text_iff hnan s
    | int n =>
      refine ⟨.number _, _, rfl, rfl, hnone ?_ rfl⟩
      rw [Option.bind_some, asNumber?_of_number? rfl]
      rfl
    | float x =>
      refine ⟨.number x, _, rfl, rfl, hnone ?_ rfl⟩
      rw [Option.bind_some, asNumber?_of_number? rfl]
      rfl
    | arr items | obj members | flaw => cases h

/-! ## Agreement -/

/-- Both sides decide a condition on a property alike. A test for equality needs a text that both
sides write, or a value that neither writes; a relation must not hold of a number that only one of
them finds. -/
def DecidedAlike (t : ConditionTest) (actual : Option Json) : Prop :=
  if t.op.isEquality then
    PropertyWrittenAlike actual ∨
      scriptText? actual ≠ some t.value ∧ Json.asText actual ≠ t.value
  else ∀ x, oneSidedProperty? actual = some x → t.op.relates x t.numericValue = false

/-- **A script decides every condition on a property of one segment that has no parts, and decides
it as the interpreter does if and only if the two coerce it alike.** -/
theorem conditionExpr_agrees_iff (t : ConditionTest) (e : Event) (name : String)
    (hpath : t.path = [name]) (hop : t.op.isEquality ∨ t.op.isRelation)
    (hsimple : (e.properties.lookup name).all Json.isSimple) :
    ∃ b, (conditionExpr t).eval? e = some (.bool b) ∧
      (b = t.accepts e ↔ DecidedAlike t (e.properties.lookup name)) := by
  have hproperty : (Expr.property t.path).eval? e = ofProperty? (e.properties.lookup name) := by
    rw [hpath, eval_property]
  have haccepts : t.accepts e = t.holds (e.properties.lookup name) := by
    rw [ConditionTest.accepts, hpath]
    exact congrArg t.holds (Option.bind_fun_some _)
  generalize e.properties.lookup name = actual at *
  rw [haccepts, DecidedAlike]
  rcases hop with hequality | hrelation
  · obtain ⟨v, s, hv, hs, hiff⟩ := exists_text hsimple
    refine ⟨_, eval_equality hequality (hproperty.trans hv) hs, ?_⟩
    have htext : scriptText? actual = some s := by
      rw [scriptText?, hv]
      exact hs
    rw [holds_equality hequality, acceptsText_eq_iff, if_pos hequality, hiff, htext, ne_eq (some s),
      Option.some_inj]
  · obtain ⟨v, x, hv, hx, hiff⟩ :=
      exists_number hsimple (t.op.relates · t.numericValue) (relates_nan _ _)
    refine ⟨_, eval_relation hrelation (hproperty.trans hv) hx, ?_⟩
    rw [holds_relation hrelation, if_neg (not_isEquality_of_isRelation hrelation)]
    exact hiff

/-- An order with a price. -/
def orderWithPrice (price : Json) : Event := ⟨"order", 0, "u", [("price", price)]⟩

/-- The condition that a price is ten or more. -/
def tenOrMore : ConditionTest := .ofCondition ⟨"price", .ge, "10"⟩

theorem conditionExpr_agrees_padded :
    (conditionExpr tenOrMore).eval? (orderWithPrice (.str " 12 ")) =
      some (.bool (tenOrMore.accepts (orderWithPrice (.str " 12 ")))) := by
  have halike : DecidedAlike tenOrMore (some (.str " 12 ")) := by
    have hnone : oneSidedProperty? (some (.str " 12 ")) = none := by rfl
    intro x hx
    rw [hnone] at hx
    cases hx
  obtain ⟨b, hb, hiff⟩ :=
    conditionExpr_agrees_iff tenOrMore (orderWithPrice (.str " 12 ")) "price" rfl (.inr rfl) rfl
  rw [hb, hiff.mpr halike]

/-- A script finds that `null` is zero or more, and the interpreter finds it is not. -/
theorem conditionExpr_null_disagrees :
    (conditionExpr (.ofCondition ⟨"price", .ge, "0"⟩)).eval? (orderWithPrice .null) =
        some (.bool true) ∧
      (ConditionTest.ofCondition ⟨"price", .ge, "0"⟩).accepts (orderWithPrice .null) = false := by
  constructor <;> rfl

end Script

end ExperimentQuery
