import ExperimentQuery.Ordered
import Mathlib.Data.List.Forall2
import Mathlib.Data.List.Induction
import Mathlib.Order.Defs.Unbundled
import Mathlib.Tactic.SplitIfs

/-!
# Theory of ordered maps

Two lists with increasing keys are equal if looking up any key in them gives the same. So a map is
known from its look-ups, however it came about.

* `Increasing`: the keys of a list increase;
* `increasing_update`, `find?_update_self`: what changing a key does;
* `Increasing.erase`, `find?_erase_of_ne`: what removing a key does;
* `increasing_foldl_update`, `find?_foldl_update`: many changes one after the other;
* `Increasing.filterMap`, `find?_filterMap`: a map with values changed or left out;
* `mapValues`, `mapValues_update`, …: a map with all values changed;
* `forall₂_update`: related maps;
* `mergeWith`, `find?_mergeWith`: two maps as one;
* `find?_ofList`, `mem_keys`: the map of a list, and the keys of a list;
* **`Increasing.ext`**: maps with the same look-ups are equal.
-/

namespace ExperimentQuery

theorem string_lt_trichotomy (s t : String) : s < t ∨ s = t ∨ t < s := by
  by_cases hst : s < t
  · exact .inl hst
  · by_cases hts : t < s
    · exact .inr (.inr hts)
    · exact .inr (.inl (String.le_antisymm (String.not_lt.mp hts) (String.not_lt.mp hst)))

instance string_lt_strictTotal : IsStrictTotalOrder String (· < ·) where
  trichotomous s t hst hts :=
    (string_lt_trichotomy s t).resolve_left hst |>.resolve_right hts
  irrefl := String.lt_irrefl
  trans _ _ _ := String.lt_trans

end ExperimentQuery

namespace ExperimentQuery.Ordered

variable {κ β γ : Type} [LT κ] [DecidableLT κ] [DecidableEq κ] {k : κ} {m n : List (κ × β)}

/-- The keys of a list increase. -/
def Increasing (m : List (κ × β)) : Prop := m.Pairwise fun p q => p.1 < q.1

omit [DecidableLT κ] [DecidableEq κ] in
@[simp]
theorem increasing_nil : Increasing ([] : List (κ × β)) := List.Pairwise.nil

omit [DecidableLT κ] [DecidableEq κ] in
theorem increasing_cons {p : κ × β} :
    Increasing (p :: m) ↔ (∀ q ∈ m, p.1 < q.1) ∧ Increasing m := List.pairwise_cons

theorem mem_update {f : Option β → β} {q : κ × β} (h : q ∈ update k f m) : q.1 = k ∨ q ∈ m := by
  induction m with
  | nil => simp_all [update]
  | cons p m ih =>
    obtain ⟨l, b⟩ := p
    unfold update at h
    split_ifs at h with hlt heq
    · rcases List.mem_cons.mp h with rfl | h
      · exact .inl rfl
      · exact .inr h
    · rcases List.mem_cons.mp h with rfl | h
      · exact .inl heq.symm
      · exact .inr (List.mem_cons_of_mem _ h)
    · rcases List.mem_cons.mp h with rfl | h
      · exact .inr List.mem_cons_self
      · exact (ih h).imp_right (List.mem_cons_of_mem _)

omit [LT κ] [DecidableLT κ] in
theorem find?_eq_none_of_forall_ne (h : ∀ q ∈ m, q.1 ≠ k) : find? k m = none := by
  unfold find?
  rw [List.find?_eq_none.mpr fun q hq => by simpa using h q hq, Option.map_none]

omit [DecidableLT κ] in
theorem Increasing.erase (hm : Increasing m) (k : κ) : Increasing (erase k m) :=
  List.Pairwise.filter _ hm

omit [LT κ] [DecidableLT κ] in
theorem find?_erase_of_ne {l : κ} (h : l ≠ k) : find? l (erase k m) = find? l m := by
  induction m with
  | nil => rfl
  | cons p m ih =>
    rw [erase, List.filter_cons, ← erase, find?_cons]
    by_cases hk : p.1 = k
    · have hl : p.1 ≠ l := fun heq => h (heq.symm.trans hk)
      rw [if_neg (by simpa using hk), ih, if_neg hl]
    · rw [if_pos (by simpa using hk), find?_cons, ih]

section

variable [IsStrictTotalOrder κ (· < ·)]

omit [DecidableLT κ] in
theorem find?_eq_none_of_lt (h : ∀ q ∈ m, k < q.1) : find? k m = none :=
  find?_eq_none_of_forall_ne fun q hq heq => irrefl_of (· < ·) k (heq ▸ h q hq)

omit [DecidableLT κ] [DecidableEq κ] in
theorem Increasing.nodup (hm : Increasing m) : (m.map (·.1)).Nodup := by
  refine List.pairwise_map.mpr (List.Pairwise.imp (fun {p q} hlt heq => ?_) hm)
  exact irrefl_of (· < ·) q.1 (heq ▸ hlt)

theorem increasing_update (f : Option β → β) (hm : Increasing m) : Increasing (update k f m) := by
  induction m with
  | nil => exact List.pairwise_singleton _ _
  | cons p m ih =>
    obtain ⟨l, b⟩ := p
    obtain ⟨hl, hm'⟩ := increasing_cons.mp hm
    unfold update
    split_ifs with hlt heq
    · refine increasing_cons.mpr ⟨fun q hq => ?_, hm⟩
      rcases List.mem_cons.mp hq with rfl | hq
      · exact hlt
      · exact trans_of (· < ·) hlt (hl q hq)
    · exact increasing_cons.mpr ⟨hl, hm'⟩
    · refine increasing_cons.mpr ⟨fun q hq => ?_, ih hm'⟩
      rcases mem_update hq with hk | hq
      · rcases trichotomous_of (· < ·) k l with h | h | h
        · exact absurd h hlt
        · exact absurd h heq
        · exact hk ▸ h
      · exact hl q hq

theorem find?_update_self (f : Option β → β) (hm : Increasing m) :
    find? k (update k f m) = some (f (find? k m)) := by
  induction m with
  | nil => simp [update, find?_cons]
  | cons p m ih =>
    obtain ⟨l, b⟩ := p
    obtain ⟨hl, hm'⟩ := increasing_cons.mp hm
    unfold update
    split_ifs with hlt heq
    · have hnone : find? k ((l, b) :: m) = none := by
        refine find?_eq_none_of_lt fun q hq => ?_
        rcases List.mem_cons.mp hq with rfl | hq
        · exact hlt
        · exact trans_of (· < ·) hlt (hl q hq)
      rw [find?_cons, if_pos rfl, hnone]
    · rw [find?_cons, find?_cons, if_pos heq.symm, if_pos heq.symm]
    · rw [find?_cons, find?_cons, if_neg (Ne.symm heq), if_neg (Ne.symm heq), ih hm']

omit [DecidableLT κ] in
theorem Increasing.find?_of_mem {p : κ × β} (hm : Increasing m) (hp : p ∈ m) :
    find? p.1 m = some p.2 := by
  induction m with
  | nil => exact nomatch hp
  | cons q m ih =>
    obtain ⟨hq, hm'⟩ := increasing_cons.mp hm
    rw [find?_cons]
    rcases List.mem_cons.mp hp with rfl | hp
    · rw [if_pos rfl]
    · have hne : q.1 ≠ p.1 := fun heq => irrefl_of (· < ·) p.1 (heq ▸ hq p hp)
      rw [if_neg hne, ih hm' hp]

omit [DecidableLT κ] in
theorem Increasing.not_lt_of_find?_eq {p q : κ × β} (hn : Increasing (q :: n))
    (h : find? p.1 (p :: m) = find? p.1 (q :: n)) : ¬ p.1 < q.1 := by
  intro hlt
  have hnone : find? p.1 (q :: n) = none := by
    refine find?_eq_none_of_lt fun r hr => ?_
    rcases List.mem_cons.mp hr with rfl | hr
    · exact hlt
    · exact trans_of (· < ·) hlt ((increasing_cons.mp hn).1 r hr)
  rw [hnone, find?_cons, if_pos rfl] at h
  exact nomatch h

omit [DecidableLT κ] in
/-- **Maps with the same look-ups are equal.** -/
theorem Increasing.ext (hm : Increasing m) (hn : Increasing n)
    (h : ∀ k, find? k m = find? k n) : m = n := by
  induction m generalizing n with
  | nil =>
    cases n with
    | nil => rfl
    | cons q n =>
      have hfind := h q.1
      rw [find?_nil, find?_cons, if_pos rfl] at hfind
      exact nomatch hfind
  | cons p m ih =>
    cases n with
    | nil =>
      have hfind := h p.1
      rw [find?_nil, find?_cons, if_pos rfl] at hfind
      exact nomatch hfind
    | cons q n =>
      obtain ⟨hp, hm'⟩ := increasing_cons.mp hm
      obtain ⟨hq, hn'⟩ := increasing_cons.mp hn
      have hkey : p.1 = q.1 := by
        rcases trichotomous_of (· < ·) p.1 q.1 with hlt | heq | hlt
        · exact absurd hlt (hn.not_lt_of_find?_eq (h p.1))
        · exact heq
        · exact absurd hlt (hm.not_lt_of_find?_eq (h q.1).symm)
      have hvalue : p.2 = q.2 := by
        have hfind := h p.1
        rw [find?_cons, if_pos rfl, find?_cons, if_pos hkey.symm] at hfind
        exact Option.some.inj hfind
      have hrest : m = n := by
        refine ih hm' hn' fun k => ?_
        by_cases hk : p.1 = k
        · rw [← hk, find?_eq_none_of_lt hp, find?_eq_none_of_lt fun r hr => hkey ▸ hq r hr]
        · have hfind := h k
          rwa [find?_cons, if_neg hk, find?_cons, if_neg (hkey ▸ hk)] at hfind
      rw [hrest, Prod.ext hkey hvalue]

end

/-! ## Changes one after the other -/

section

variable [IsStrictTotalOrder κ (· < ·)] {ι : Type} (key : ι → κ) (step : ι → Option β → β)

theorem increasing_foldl_update (xs : List ι) (hm : Increasing m) :
    Increasing (xs.foldl (fun m x => update (key x) (step x) m) m) := by
  induction xs generalizing m with
  | nil => exact hm
  | cons x xs ih => exact ih (increasing_update (step x) hm)

/-- The value of a key after many changes comes from the changes of this key. -/
theorem find?_foldl_update (k : κ) (xs : List ι) (hm : Increasing m) :
    find? k (xs.foldl (fun m x => update (key x) (step x) m) m) =
      (xs.filter (key · = k)).foldl (fun b x => some (step x b)) (find? k m) := by
  induction xs generalizing m with
  | nil => rfl
  | cons x xs ih =>
    rw [List.foldl_cons, ih (increasing_update (step x) hm), List.filter_cons]
    by_cases hk : key x = k
    · rw [if_pos (by simpa using hk), List.foldl_cons, ← hk, find?_update_self _ hm]
    · rw [if_neg (by simpa using hk), find?_update_of_ne (Ne.symm hk)]

end

/-! ## Maps with other values -/

omit [DecidableLT κ] [DecidableEq κ] in
theorem Increasing.filterMap (hm : Increasing m) (f : β → Option γ) :
    Increasing (m.filterMap fun p => (f p.2).map fun c => (p.1, c)) := by
  refine List.Pairwise.filterMap _ (fun p q hlt p' hp q' hq => ?_) hm
  obtain ⟨c, -, rfl⟩ := Option.map_eq_some_iff.mp hp
  obtain ⟨d, -, rfl⟩ := Option.map_eq_some_iff.mp hq
  exact hlt

omit [DecidableLT κ] in
theorem find?_filterMap [IsStrictTotalOrder κ (· < ·)] (hm : Increasing m) (f : β → Option γ)
    (k : κ) :
    find? k (m.filterMap fun p => (f p.2).map fun c => (p.1, c)) = (find? k m).bind f := by
  induction m with
  | nil => rfl
  | cons p m ih =>
    obtain ⟨hp, hm'⟩ := increasing_cons.mp hm
    rw [List.filterMap_cons, find?_cons]
    by_cases hk : p.1 = k
    · rw [if_pos hk, Option.bind_some]
      cases hf : f p.2 with
      | none => rw [Option.map_none, ih hm', find?_eq_none_of_lt (hk ▸ hp), Option.bind_none]
      | some c => rw [Option.map_some, find?_cons, if_pos hk]
    · rw [if_neg hk]
      cases hf : f p.2 with
      | none => rw [Option.map_none, ih hm']
      | some c => rw [Option.map_some, find?_cons, if_neg hk, ih hm']

/-- The values of a map, each changed. -/
def mapValues (f : β → γ) (m : List (κ × β)) : List (κ × γ) := m.map fun p => (p.1, f p.2)

omit [LT κ] [DecidableLT κ] in
theorem find?_mapValues (f : β → γ) (m : List (κ × β)) (k : κ) :
    find? k (mapValues f m) = (find? k m).map f := by
  induction m with
  | nil => rfl
  | cons p m ih =>
    rw [mapValues, List.map_cons, ← mapValues, find?_cons, find?_cons, ih]
    split_ifs <;> rfl

theorem mapValues_update {f : β → γ} {g : Option β → β} {g' : Option γ → γ}
    (h : ∀ b, f (g b) = g' (b.map f)) (k : κ) (m : List (κ × β)) :
    mapValues f (update k g m) = update k g' (mapValues f m) := by
  induction m with
  | nil => exact congrArg (fun c => [(k, c)]) (h none)
  | cons p m ih =>
    obtain ⟨l, b⟩ := p
    simp only [mapValues, List.map_cons, update] at ih ⊢
    split_ifs
    · rw [List.map_cons, List.map_cons, h]
      rfl
    · rw [List.map_cons, h]
      rfl
    · rw [List.map_cons, ih]

theorem mapValues_insert (f : β → γ) (m : List (κ × β)) (k : κ) (b : β) :
    mapValues f (insert k b m) = insert k (f b) (mapValues f m) := by
  refine mapValues_update (fun _ => ?_) k m
  rfl

omit [LT κ] [DecidableLT κ] in
theorem mapValues_erase (f : β → γ) (m : List (κ × β)) (k : κ) :
    mapValues f (erase k m) = erase k (mapValues f m) := by
  rw [mapValues, erase, erase, mapValues, List.filter_map]
  rfl

/-! ## Related maps -/

/-- Two maps with the same keys and related values stay so when related changes are made. -/
theorem forall₂_update {R : β → γ → Prop} {f : Option β → β} {g : Option γ → γ}
    (hnone : R (f none) (g none)) (hsome : ∀ b c, R b c → R (f (some b)) (g (some c)))
    {n : List (κ × γ)} (h : List.Forall₂ (fun p q => p.1 = q.1 ∧ R p.2 q.2) m n) :
    List.Forall₂ (fun p q => p.1 = q.1 ∧ R p.2 q.2) (update k f m) (update k g n) := by
  induction h with
  | nil => exact .cons ⟨rfl, hnone⟩ .nil
  | @cons p q m n hpq hmn ih =>
    obtain ⟨l, b⟩ := p
    obtain ⟨l', c⟩ := q
    obtain ⟨rfl, hbc⟩ := hpq
    unfold update
    split_ifs
    · exact .cons ⟨rfl, hnone⟩ (.cons ⟨rfl, hbc⟩ hmn)
    · exact .cons ⟨rfl, hsome b c hbc⟩ hmn
    · exact .cons ⟨rfl, hbc⟩ ih

/-! ## Two maps as one -/

/-- Two maps as one, in which the values of a key of both are combined. -/
def mergeWith (f : β → β → β) (m n : List (κ × β)) : List (κ × β) :=
  n.foldl (fun m q => update q.1 (fun b => b.elim q.2 (f · q.2)) m) m

section

variable [IsStrictTotalOrder κ (· < ·)]

theorem increasing_mergeWith (f : β → β → β) (hm : Increasing m) (n : List (κ × β)) :
    Increasing (mergeWith f m n) :=
  increasing_foldl_update Prod.fst (fun q b => b.elim q.2 (f · q.2)) n hm

omit [DecidableLT κ] in
theorem Increasing.filter_key (hn : Increasing n) (k : κ) :
    n.filter (·.1 = k) = (find? k n).toList.map fun b => (k, b) := by
  induction n with
  | nil => rfl
  | cons q n ih =>
    obtain ⟨hq, hn'⟩ := increasing_cons.mp hn
    rw [List.filter_cons, find?_cons, ih hn']
    by_cases hk : q.1 = k
    · rw [if_pos (by simpa using hk), if_pos hk, find?_eq_none_of_lt (hk ▸ hq), ← hk]
      rfl
    · rw [if_neg (by simpa using hk), if_neg hk]

/-- A key has the values of both maps, combined if it has two. -/
theorem find?_mergeWith (f : β → β → β) (hm : Increasing m) (hn : Increasing n) (k : κ) :
    find? k (mergeWith f m n) = Option.merge f (find? k m) (find? k n) := by
  rw [mergeWith, find?_foldl_update Prod.fst (fun q b => b.elim q.2 (f · q.2)) k n hm,
    hn.filter_key]
  cases find? k m <;> cases find? k n <;> rfl

end

/-! ## The map of a list -/

omit [LT κ] [DecidableLT κ] in
theorem find?_eq_lookup (k : κ) (m : List (κ × β)) : find? k m = m.lookup k := by
  induction m with
  | nil => rfl
  | cons p m ih =>
    rw [find?_cons, List.lookup_cons, ih]
    by_cases hk : p.1 = k
    · simp [hk]
    · rw [if_neg hk, beq_false_of_ne (Ne.symm hk)]

omit [LT κ] [DecidableLT κ] in
theorem isSome_find? : (find? k m).isSome ↔ k ∈ m.map (·.1) := by
  induction m with
  | nil => simp
  | cons p m ih =>
    rw [find?_cons, List.map_cons, List.mem_cons]
    by_cases hk : p.1 = k
    · simp [hk]
    · rw [if_neg hk, ih]
      simp [Ne.symm hk]

theorem ofList_append_singleton (ps : List (κ × β)) (p : κ × β) :
    ofList (ps ++ [p]) = insert p.1 p.2 (ofList ps) := by
  rw [ofList, List.foldl_append, List.foldl_cons, List.foldl_nil, ofList]

theorem increasing_ofList [IsStrictTotalOrder κ (· < ·)] (ps : List (κ × β)) :
    Increasing (ofList ps) := by
  induction ps using List.reverseRecOn with
  | nil => exact increasing_nil
  | append_singleton ps p ih =>
    rw [ofList_append_singleton]
    exact increasing_update _ ih

theorem find?_ofList {ps : List (κ × β)} (h : (ps.map (·.1)).Nodup) :
    find? k (ofList ps) = find? k ps := by
  induction ps using List.reverseRecOn with
  | nil => rfl
  | append_singleton ps p ih =>
    rw [List.map_append, List.nodup_append] at h
    obtain ⟨hps, -, hp⟩ := h
    obtain ⟨l, b⟩ := p
    rw [ofList_append_singleton, find?_eq_lookup k (ps ++ [(l, b)]), List.lookup_append,
      ← find?_eq_lookup, ← ih hps]
    by_cases hk : k = l
    · have hnone : find? k (ofList ps) = none := by
        rw [ih hps]
        exact find?_eq_none_of_forall_ne fun q hq heq =>
          hp q.1 (List.mem_map_of_mem hq) l List.mem_cons_self (heq.trans hk)
      rw [hnone, Option.none_or, hk, find?_insert_self]
      simp
    · rw [insert, find?_update_of_ne hk]
      simp [List.lookup_cons, beq_false_of_ne hk]

theorem isSome_find?_ofList {ps : List (κ × β)} :
    (find? k (ofList ps)).isSome ↔ k ∈ ps.map (·.1) := by
  induction ps using List.reverseRecOn with
  | nil => simp [ofList]
  | append_singleton ps p ih =>
    rw [ofList_append_singleton, List.map_append, List.mem_append, ← ih]
    by_cases hk : k = p.1
    · simp [hk]
    · rw [insert, find?_update_of_ne hk]
      simp [hk]

omit [LT κ] [DecidableLT κ] in
theorem find?_map_pair (f : κ → β) (ks : List κ) (k : κ) :
    find? k (ks.map fun l => (l, f l)) = if k ∈ ks then some (f k) else none := by
  induction ks with
  | nil => rfl
  | cons l ks ih =>
    rw [List.map_cons, find?_cons, ih]
    by_cases hk : l = k
    · simp [hk]
    · simp [hk, Ne.symm hk]

theorem mem_keys {ks : List κ} : k ∈ keys ks ↔ k ∈ ks := by
  rw [keys, ← isSome_find?, isSome_find?_ofList, List.map_map]
  simp

end ExperimentQuery.Ordered
