import ExperimentQuery.Validation.Session

/-!
# Fetching in a session

A session is given metrics to check, one after another, while its source yields what it will: any
fetch may fail, and no two fetches need yield the same tables. As long as all fetches have failed,
each check fetches once more and fails with its fetch. From the first fetch that succeeds on there
are no others, and all checks are made with its tables.

* `Session.trace`: the answers to some checks, each with the number of fetches by then;
* `FailsBefore`, `Session.After`: the session after a number of checks;
* `Session.Answers`, **`Session.After.check`**: one check;
* **`Session.trace_follows_first_success`**: any number of checks.
-/

namespace ExperimentQuery

/-- All fetches before the one of this number fail. -/
def FailsBefore (source : FactSource) (n : Nat) : Prop :=
  ∀ k < n, ∃ reason, source k = .error reason

theorem FailsBefore.le {source : FactSource} {n k : Nat} {ts : FactTables}
    (h : FailsBefore source n) (hts : source k = .ok ts) : n ≤ k := by
  refine Nat.le_of_not_lt fun hlt => ?_
  obtain ⟨reason, hreason⟩ := h k hlt
  cases hts.symm.trans hreason

namespace Session

/-- **The answers of a session** to some checks, each with the number of fetches by then. -/
def trace (source : FactSource) :
    Session → List (Metric × List PremiumFeature) → List (Except SessionError Unit × Nat)
  | _, [] => []
  | s, (m, features) :: calls =>
    let (answer, s) := s.check source m features
    (answer, s.fetches) :: trace source s calls

@[simp]
theorem length_trace (source : FactSource) (s : Session)
    (calls : List (Metric × List PremiumFeature)) :
    (trace source s calls).length = calls.length := by
  induction calls generalizing s with
  | nil => rfl
  | cons call calls ih => rw [trace, List.length_cons, ih, List.length_cons]

/-! ## One check -/

/-- The session after `n` checks: all of them have fetched and failed, or one has fetched the tables
that there are. -/
inductive After (source : FactSource) (n : Nat) : Session → Prop where
  | failing (hfails : FailsBefore source n) : After source n ⟨n, none⟩
  | fetched {k : Nat} {ts : FactTables} (hk : k < n) (hfails : FailsBefore source k)
      (hts : source k = .ok ts) : After source n ⟨k + 1, some ts⟩

/-- What the check after `n` others answers, and the number of fetches by then. -/
inductive Answers (source : FactSource) (n : Nat) (m : Metric) (features : List PremiumFeature) :
    Except SessionError Unit → Nat → Prop where
  | failure {reason : String} (hfails : FailsBefore source n) (hreason : source n = .error reason) :
    Answers source n m features (.error (.fetch reason)) (n + 1)
  | tables {k : Nat} {ts : FactTables} (hk : k ≤ n) (hfails : FailsBefore source k)
      (hts : source k = .ok ts) :
    Answers source n m features ((m.check ts features).mapError .invalid) (k + 1)

variable {source : FactSource} {n : Nat} {s : Session}

theorem check_of_tables {ts : FactTables} {s' : Session} (h : s.tables source = (.ok ts, s'))
    (m : Metric) (features : List PremiumFeature) :
    s.check source m features = ((m.check ts features).mapError .invalid, s') := by
  rw [Session.check, h]
  dsimp only
  cases m.check ts features <;> rfl

/-- **One check** answers as it must, and leaves the session as it must be after one check more. -/
theorem After.check (h : After source n s) (m : Metric) (features : List PremiumFeature) :
    Answers source n m features (s.check source m features).1
        (s.check source m features).2.fetches ∧
      After source (n + 1) (s.check source m features).2 := by
  cases h with
  | fetched hk hfails hts =>
    rw [check_of_tables rfl]
    exact ⟨.tables (Nat.le_of_lt hk) hfails hts, .fetched (Nat.lt_succ_of_lt hk) hfails hts⟩
  | failing hfails =>
    cases hfetch : source n with
    | ok ts =>
      have htables : tables source ⟨n, none⟩ = (.ok ts, ⟨n + 1, some ts⟩) := by
        simp only [tables, hfetch]
      rw [check_of_tables htables]
      exact ⟨.tables (Nat.le_refl n) hfails hfetch, .fetched (Nat.lt_succ_self n) hfails hfetch⟩
    | error reason =>
      have hcheck : Session.check source ⟨n, none⟩ m features =
          (.error (.fetch reason), ⟨n + 1, none⟩) := by
        simp only [Session.check, tables, hfetch]
      rw [hcheck]
      refine ⟨.failure hfails hfetch, .failing fun k hk => ?_⟩
      rcases Nat.lt_succ_iff_lt_or_eq.mp hk with hlt | rfl
      · exact hfails k hlt
      · exact ⟨reason, hfetch⟩

/-! ## Many checks -/

/-- Every check of a session answers as it must. -/
theorem After.answers_trace (h : After source n s) {calls : List (Metric × List PremiumFeature)}
    {i : Nat} {m : Metric} {features : List PremiumFeature}
    (hcall : calls[i]? = some (m, features)) :
    ∃ answer fetches, (trace source s calls)[i]? = some (answer, fetches) ∧
      Answers source (n + i) m features answer fetches := by
  -- the checks made so far move from the calls into `n`, and `After` holds again
  induction calls generalizing n s i with
  | nil => cases hcall
  | cons call calls ih =>
    obtain ⟨m', features'⟩ := call
    obtain ⟨hanswers, hafter⟩ := h.check m' features'
    cases i with
    | zero =>
      cases hcall
      exact ⟨_, _, rfl, hanswers⟩
    | succ i =>
      have hplace : n + (i + 1) = n + 1 + i := by omega
      rw [hplace]
      exact ih hafter hcall

/-- **A session fetches until a fetch succeeds, and never again**: as long as all fetches have
failed, each check fetches once and fails with what its fetch fails with; from the first fetch that
succeeds on, every check is made with its tables. -/
theorem trace_follows_first_success (source : FactSource)
    (calls : List (Metric × List PremiumFeature)) :
    (trace source {} calls).length = calls.length ∧
      ∀ n m features, calls[n]? = some (m, features) →
        (∀ reason, FailsBefore source n → source n = .error reason →
          (trace source {} calls)[n]? = some (.error (.fetch reason), n + 1)) ∧
        ∀ k ts, k ≤ n → FailsBefore source k → source k = .ok ts →
          (trace source {} calls)[n]? = some ((m.check ts features).mapError .invalid, k + 1) := by
  refine ⟨length_trace source {} calls, fun n m features hcall => ?_⟩
  have hstart : After source 0 {} := .failing fun k hk => absurd hk (Nat.not_lt_zero k)
  obtain ⟨answer, fetches, htrace, hanswers⟩ := hstart.answers_trace hcall
  rw [Nat.zero_add] at hanswers
  rw [htrace]
  constructor
  · intro reason hfails hreason
    cases hanswers with
    | failure _ hreason' =>
      cases hreason.symm.trans hreason'
      rfl
    | tables hk _ hts =>
      cases Nat.le_antisymm hk (hfails.le hts)
      cases hts.symm.trans hreason
  · intro k ts hk hfails hts
    cases hanswers with
    | failure hfails' hreason =>
      cases Nat.le_antisymm hk (hfails'.le hts)
      cases hts.symm.trans hreason
    | tables _ hfails' hts' =>
      cases Nat.le_antisymm (hfails.le hts') (hfails'.le hts)
      cases hts.symm.trans hts'
      rfl

/-- A source that fails once, then yields a table, and then none. -/
def flakySource : FactSource
  | 0 => .error "timeout"
  | 1 => .ok [{ id := "orders", datasource := "warehouse" }]
  | _ => .ok []

/-- The number of orders, without licences. -/
def countOrders : Metric × List PremiumFeature :=
  ({ id := "fact__orders", name := "Orders", kind := .count, events := "order",
     numerator := { factTable := "orders" } }, [])

theorem trace_follows_first_success_flaky :
    FailsBefore flakySource 0 ∧ FailsBefore flakySource 1 ∧
      (trace flakySource {} [countOrders, countOrders, countOrders])[0]? =
        some (.error (.fetch "timeout"), 1) ∧
      (trace flakySource {} [countOrders, countOrders, countOrders])[2]? = some (.ok (), 2) := by
  have hnone : FailsBefore flakySource 0 := fun k hk => absurd hk (Nat.not_lt_zero k)
  have hfirst : FailsBefore flakySource 1 := fun k hk => by
    rw [Nat.lt_one_iff.mp hk]
    exact ⟨"timeout", rfl⟩
  obtain ⟨-, htrace⟩ :=
    trace_follows_first_success flakySource [countOrders, countOrders, countOrders]
  refine ⟨hnone, hfirst, ?_, ?_⟩
  · exact (htrace 0 _ _ rfl).1 "timeout" hnone rfl
  · exact (htrace 2 _ _ rfl).2 1 _ (by decide) hfirst rfl

end Session

end ExperimentQuery
