import ExperimentQuery.Rows
import Mathlib.Data.List.Induction
import Mathlib.Data.List.Perm.Basic

/-!
# Rows of value queries

The response of a value query is a list of results, and each result that is given by date is put in
order by itself. So the rows of dates are all there, and they are in order as a whole only if the
results were. An entry of the response counts as a result as soon as it names a type, of whatever
name, and is read as one then.

* `LastOverall`: the row over all users, as the last result over all users gives it;
* `DatesAscend`: no result has a date after one of a later result;
* **`decodeValueRows_rows_iff`**: the rows, and when those of dates are in order;
* `RawValueRow.ofJson?_eq_none`: what is not read as a result;
* **`parseValueBody?_insert_eq_iff`**: when an entry that names no type of result goes unnoticed.
-/

namespace ExperimentQuery

/-! ## Dates -/

/-- The dates of a result. -/
def RawValueRow.buckets : RawValueRow → List RawDateRow
  | overall _ _ _ => []
  | byDate dates => dates

/-- The row over all users that some results give: that of the last one over all users, and zeros if
none is over all users. -/
inductive LastOverall : List RawValueRow → MetricValueRow → Prop
  | given (before : List RawValueRow) (count : Nat) (sum sumSquares : Option Float)
      (after : List (List RawDateRow)) :
      LastOverall (before ++ .overall count sum sumSquares :: after.map .byDate)
        ⟨"", count, sum.getD 0.0, sumSquares.getD 0.0⟩
  | missing (results : List (List RawDateRow)) : LastOverall (results.map .byDate) ⟨"", 0, 0.0, 0.0⟩

/-- No result has a date after one of a later result. -/
def DatesAscend (rs : List RawValueRow) : Prop :=
  rs.Pairwise fun r r' => ∀ d ∈ r.buckets, ∀ d' ∈ r'.buckets, d.date ≤ d'.date

theorem LastOverall.byDate {rs : List RawValueRow} {row : MetricValueRow} (h : LastOverall rs row)
    (dates : List RawDateRow) : LastOverall (rs ++ [.byDate dates]) row := by
  cases h with
  | given before count sum sumSquares after =>
    have hlast := given before count sum sumSquares (after ++ [dates])
    simpa using hlast
  | missing results =>
    have hlast := missing (results ++ [dates])
    simpa using hlast

theorem lastOverall_getLastD (rs : List RawValueRow) :
    LastOverall rs ((rs.filterMap (·.overall?)).getLastD ⟨"", 0, 0.0, 0.0⟩) := by
  induction rs using List.reverseRecOn with
  | nil => exact .missing []
  | append_singleton rs r ih =>
    rw [List.filterMap_append]
    cases r with
    | overall count sum sumSquares =>
      have hlast : ([RawValueRow.overall count sum sumSquares].filterMap (·.overall?)) =
        [⟨"", count, sum.getD 0.0, sumSquares.getD 0.0⟩] := rfl
      rw [hlast, List.getLastD_concat]
      exact .given rs count sum sumSquares []
    | byDate dates =>
      have hlast : ([RawValueRow.byDate dates].filterMap (·.overall?)) = [] := rfl
      rw [hlast, List.append_nil]
      exact ih.byDate dates

theorem dated_perm (r : RawValueRow) : r.dated.Perm (r.buckets.map RawDateRow.decode) := by
  cases r with
  | overall count sum sumSquares => exact .nil
  | byDate dates => exact (List.mergeSort_perm dates _).map _

theorem date_le_trans (a b c : RawDateRow) (hab : decide (a.date ≤ b.date))
    (hbc : decide (b.date ≤ c.date)) : decide (a.date ≤ c.date) :=
  decide_eq_true (String.le_trans (of_decide_eq_true hab) (of_decide_eq_true hbc))

theorem date_le_total (a b : RawDateRow) :
    decide (a.date ≤ b.date) || decide (b.date ≤ a.date) := by
  simpa using String.le_total a.date b.date

theorem pairwise_dated (r : RawValueRow) : r.dated.Pairwise fun a b => a.date ≤ b.date := by
  cases r with
  | overall count sum sumSquares => exact .nil
  | byDate dates =>
    have hsorted := List.pairwise_mergeSort date_le_trans date_le_total dates
    exact List.pairwise_map.mpr (hsorted.imp fun hab => of_decide_eq_true hab)

theorem pairwise_flatMap_dated_iff (rs : List RawValueRow) :
    (rs.flatMap (·.dated)).Pairwise (fun a b => a.date ≤ b.date) ↔ DatesAscend rs := by
  have hmem : ∀ (r : RawValueRow) (p : String → Prop),
      (∀ row ∈ r.dated, p row.date) ↔ ∀ d ∈ r.buckets, p d.date := by
    intro r p
    simp only [(dated_perm r).mem_iff, List.forall_mem_map, RawDateRow.decode]
  rw [List.pairwise_flatMap, and_iff_right fun r _ => pairwise_dated r, DatesAscend]
  refine List.Pairwise.iff fun r r' => ?_
  rw [hmem r fun date => ∀ row ∈ r'.dated, date ≤ row.date]
  exact forall₂_congr fun d _ => hmem r' (d.date ≤ ·)

/-- **The rows of a value query** are the one over all users, and then a row for each date of each
result, none lost and none added. The rows of dates are in order if and only if no result has a date
after one of a later result. -/
theorem decodeValueRows_rows_iff (rs : List RawValueRow) :
    ∃ overall dated, decodeValueRows rs = overall :: dated ∧ LastOverall rs overall ∧
      dated.Perm ((rs.flatMap (·.buckets)).map fun d =>
        ⟨d.date, d.count, d.sum.getD 0.0, d.sumSquares.getD 0.0⟩) ∧
      (dated.Pairwise (fun a b => a.date ≤ b.date) ↔ DatesAscend rs) := by
  refine ⟨_, _, rfl, lastOverall_getLastD rs, ?_, pairwise_flatMap_dated_iff rs⟩
  rw [List.map_flatMap]
  exact List.Perm.flatMap_left rs fun r _ => dated_perm r

/-- The dates of two results stay apart, though the second has the earlier one. -/
theorem decodeValueRows_unordered :
    let rs : List RawValueRow :=
      [.byDate [⟨"2024-01-02", 1, none, none⟩], .byDate [⟨"2024-01-01", 2, none, none⟩]]
    decodeValueRows rs =
        [⟨"", 0, 0.0, 0.0⟩, ⟨"2024-01-02", 1, 0.0, 0.0⟩, ⟨"2024-01-01", 2, 0.0, 0.0⟩] ∧
      ¬(decodeValueRows rs).tail.Pairwise fun a b => a.date ≤ b.date := by
  intro rs
  have hrows : decodeValueRows rs =
      [⟨"", 0, 0.0, 0.0⟩, ⟨"2024-01-02", 1, 0.0, 0.0⟩, ⟨"2024-01-01", 2, 0.0, 0.0⟩] := by
    simp [rs, decodeValueRows, RawValueRow.overall?, RawValueRow.dated, RawDateRow.decode]
  refine ⟨hrows, ?_⟩
  rw [hrows, List.tail_cons, List.pairwise_pair]
  decide

/-! ## Entries -/

/-- An entry of a response names one of the types of results. -/
def NamesResult (entry : Json) : Prop :=
  ∃ kind ∈ ["overall", "byDate"], entry.get? "type" = some (.str kind)

theorem hasType_iff {entry : Json} :
    hasType entry ↔ ∃ kind, entry.get? "type" = some (.str kind) := by
  unfold hasType
  cases entry.get? "type" with
  | none => simp
  | some v => cases v <;> simp [Json.string?]

theorem filter_of_lookup {name : String} {members : List (String × Json)} {v : Json}
    (h : members.lookup name = some v) :
    ∃ rest, members.filter (·.1 = name) = (name, v) :: rest := by
  induction members with
  | nil => cases h
  | cons m members ih =>
    obtain ⟨k, w⟩ := m
    by_cases hk : k = name
    · subst hk
      rw [List.lookup_cons_self] at h
      cases h
      exact ⟨_, List.filter_cons_of_pos (by simp)⟩
    · rw [List.lookup_cons, beq_false_of_ne (Ne.symm hk)] at h
      rw [List.filter_cons_of_neg (by simpa using hk)]
      exact ih h

/-- **What names a type that is none of a result** is not read as one. -/
theorem RawValueRow.ofJson?_eq_none {entry : Json} {kind : String}
    (hkind : entry.get? "type" = some (.str kind)) (h : ¬NamesResult entry) :
    ofJson? entry = none := by
  have hbody : ∀ body, ofBody? kind body = none := by
    intro body
    have hoverall : kind ≠ "overall" := fun heq => h ⟨kind, by simp [heq], hkind⟩
    have hbyDate : kind ≠ "byDate" := fun heq => h ⟨kind, by simp [heq], hkind⟩
    rw [ofBody?, if_neg hoverall, if_neg hbyDate]
  cases entry with
  | obj members =>
    obtain ⟨rest, hfilter⟩ := filter_of_lookup hkind
    rw [ofJson?, hfilter]
    cases rest with
    | nil => exact hbody _
    | cons m rest => rfl
  | _ => cases hkind

section

variable {entry : Json} (before after others : List Json)

theorem parseValueBody?_insert_of_not_hasType (h : ¬hasType entry) :
    parseValueBody? (.arr (.arr (before ++ entry :: after) :: others)) =
      parseValueBody? (.arr (.arr (before ++ after) :: others)) := by
  simp only [parseValueBody?, responseEntries, List.filter_append, List.filter_cons_of_neg h]

/-- An entry that is not read as a result spoils the response, if it names a type. -/
theorem parseValueBody?_insert_of_hasType (h : hasType entry)
    (hnone : RawValueRow.ofJson? entry = none) :
    parseValueBody? (.arr (.arr (before ++ entry :: after) :: others)) = none := by
  rw [parseValueBody?, responseEntries, List.filter_append, List.filter_cons_of_pos h,
    List.mapM_append, List.mapM_cons, hnone]
  cases (before.filter hasType).mapM RawValueRow.ofJson? <;> rfl

/-- **An entry that names no type of result goes unnoticed** if and only if its type is missing or
no text, or if the response is spoilt without it. -/
theorem parseValueBody?_insert_eq_iff (h : ¬NamesResult entry) :
    parseValueBody? (.arr (.arr (before ++ entry :: after) :: others)) =
        parseValueBody? (.arr (.arr (before ++ after) :: others)) ↔
      (∀ kind, entry.get? "type" ≠ some (.str kind)) ∨
        parseValueBody? (.arr (.arr (before ++ after) :: others)) = none := by
  by_cases htype : hasType entry
  · obtain ⟨kind, hkind⟩ := hasType_iff.mp htype
    have hnone := RawValueRow.ofJson?_eq_none hkind h
    rw [parseValueBody?_insert_of_hasType before after others htype hnone]
    constructor
    · exact fun hsame => .inr hsame.symm
    · rintro (hmissing | hspoilt)
      · exact absurd hkind (hmissing kind)
      · exact hspoilt.symm
  · have hmissing : ∀ kind, entry.get? "type" ≠ some (.str kind) := fun kind hkind =>
      htype (hasType_iff.mpr ⟨kind, hkind⟩)
    exact iff_of_true (parseValueBody?_insert_of_not_hasType before after others htype)
      (.inl hmissing)

end

/-- The result over a number of users. -/
def usersEntry (count : Int) : Json := .obj [("type", .str "overall"), ("count", .int count)]

/-- An entry whose type is a number stands between two results. -/
theorem parseValueBody?_insert_eq_iff_number :
    let entry : Json := .obj [("count", .int 0), ("type", .int 1)]
    ¬NamesResult entry ∧
      parseValueBody? (.arr [.arr [usersEntry 9, entry, usersEntry 3]]) =
        some [⟨"", 3, 0.0, 0.0⟩] := by
  intro entry
  have hnames : ¬NamesResult entry := by
    rintro ⟨kind, -, hkind⟩
    cases hkind
  have hsame := (parseValueBody?_insert_eq_iff [usersEntry 9] [usersEntry 3] [] hnames).mpr
    (.inl fun kind hkind => nomatch hkind)
  exact ⟨hnames, hsame.trans rfl⟩

/-- A type of some other name spoils the response. -/
theorem parseValueBody?_spoilt_by_type :
    let entry : Json := .obj [("type", .str "median")]
    ¬NamesResult entry ∧
      parseValueBody? (.arr [.arr [usersEntry 3]]) = some [⟨"", 3, 0.0, 0.0⟩] ∧
      parseValueBody? (.arr [.arr [usersEntry 3, entry]]) = none := by
  intro entry
  have hnames : ¬NamesResult entry := by
    rintro ⟨kind, hmem, hkind⟩
    cases hkind
    simp at hmem
  exact ⟨hnames, rfl, rfl⟩

end ExperimentQuery
