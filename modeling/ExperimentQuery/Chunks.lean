/-!
# Parts of a list

* `chunks`: consecutive parts of one length;
* `flatten_chunks`: the parts make up the list.
-/

namespace ExperimentQuery

/-- Consecutive parts of a list, each of `size + 1` items but for the last; `left` is the room in
the part being filled. -/
def chunksFrom {α : Type} (size : Nat) : Nat → List α → List (List α)
  | _, [] => []
  | 0, b :: bs => [b] :: chunksFrom size size bs
  | left + 1, b :: bs =>
    match bs with
    | [] => [[b]]
    | _ :: _ =>
      match chunksFrom size left bs with
      | [] => [[b]]
      | part :: parts => (b :: part) :: parts

/-- Consecutive parts of a list of `size` items each, one at least; the last may be shorter. -/
def chunks {α : Type} (size : Nat) (bs : List α) : List (List α) :=
  chunksFrom (size - 1) (size - 1) bs

theorem flatten_chunksFrom {α : Type} (size left : Nat) (bs : List α) :
    (chunksFrom size left bs).flatten = bs := by
  fun_induction chunksFrom size left bs with
  | case1 => rfl
  | case2 b bs ih => simp [ih]
  | case3 => rfl
  | case4 left b c cs h ih => simp [h] at ih
  | case5 left b c cs part parts h ih =>
    rw [h] at ih
    simp only [h, List.flatten_cons, List.cons_append]
    rw [← ih, List.flatten_cons]

@[simp]
theorem flatten_chunks {α : Type} (size : Nat) (bs : List α) : (chunks size bs).flatten = bs :=
  flatten_chunksFrom _ _ bs

end ExperimentQuery
