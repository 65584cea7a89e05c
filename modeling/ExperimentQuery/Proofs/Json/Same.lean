import ExperimentQuery.Interpreter.UserState

/-!
# Equality of values

Values are compared in either order with the same result, floats included.

* `float_beq_comm`: floats;
* **`Json.same_comm`**: values;
* `sameProperty_comm`: properties, which may be missing.
-/

namespace ExperimentQuery

theorem compare_then_beq_comm {α β : Type} [Ord α] [Ord β] [Std.LawfulEqOrd α] [Std.LawfulEqOrd β]
    (a a' : α) (b b' : β) :
    (some ((compare a a').then (compare b b')) == some Ordering.eq) =
      (some ((compare a' a).then (compare b' b)) == some Ordering.eq) := by
  rw [Bool.eq_iff_iff]
  simp only [beq_iff_eq, Option.some.injEq, Ordering.then_eq_eq, Std.LawfulEqCmp.compare_eq_iff_eq]
  rw [@eq_comm _ a, @eq_comm _ b]

theorem swap_beq_eq (o : Ordering) : (some o.swap == some Ordering.eq) = (some o == some .eq) := by
  cases o <;> rfl

open Float.Model in
theorem unpacked_beq_comm (x y : UnpackedFloat) : x.beq y = y.beq x := by
  unfold UnpackedFloat.beq
  cases x with
  | notANumber => cases y <;> rfl
  | infinity s =>
    cases y with
    | infinity t => cases s <;> cases t <;> rfl
    | _ => cases s <;> rfl
  | zero s =>
    cases y with
    | infinity t => cases t <;> rfl
    | finite t => cases t <;> rfl
    | _ => rfl
  | finite s m e =>
    cases y with
    | infinity t => cases t <;> cases s <;> rfl
    | finite t m' e' =>
      have heq := compare_then_beq_comm e e' m m'
      -- only two numbers of one sign are compared by their exponents and mantissas
      cases s <;> cases t
      · exact (swap_beq_eq _).trans (heq.trans (swap_beq_eq _).symm)
      · rfl
      · rfl
      · exact heq
    | _ => cases s <;> rfl

theorem float_beq_comm (a b : Float) : (a == b) = (b == a) :=
  unpacked_beq_comm a.toModel.unpack b.toModel.unpack

namespace Json

mutual

/-- **Equality of values is symmetric.** -/
theorem same_comm : ∀ a b : Json, same a b = same b a
  | .null, b => by cases b <;> simp [same]
  | .bool a, b => by cases b <;> simp [same, Bool.beq_comm]
  | .int a, b => by cases b <;> simp [same, Bool.beq_comm]
  | .float a, b => by cases b <;> simp [same, float_beq_comm]
  | .str a, b => by cases b <;> simp [same, Bool.beq_comm]
  | .arr a, b => by cases b <;> simp [same, sameItems_comm a]
  | .obj a, b => by cases b <;> simp [same, sameMembers_comm a]
  | .flaw, b => by cases b <;> simp [same]

theorem sameItems_comm : ∀ as bs : List Json, sameItems as bs = sameItems bs as
  | [], bs => by cases bs <;> simp [sameItems]
  | a :: as, bs => by cases bs <;> simp [sameItems, same_comm a, sameItems_comm as]

theorem sameMembers_comm : ∀ as bs : List (String × Json), sameMembers as bs = sameMembers bs as
  | [], bs => by cases bs <;> simp [sameMembers]
  | (k, a) :: as, bs => by
    cases bs <;> simp [sameMembers, same_comm a, sameMembers_comm as, Bool.beq_comm]

end

end Json

theorem sameProperty_comm (v w : Option Json) : sameProperty v w = sameProperty w v := by
  cases v <;> cases w <;> simp [sameProperty, Json.same_comm]

end ExperimentQuery
