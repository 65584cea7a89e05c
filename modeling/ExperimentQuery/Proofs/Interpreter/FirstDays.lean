import ExperimentQuery.Proofs.Interpreter.Batches
import ExperimentQuery.Proofs.Interpreter.Arrival
import ExperimentQuery.Proofs.Interpreter.Timing
import ExperimentQuery.Proofs.Time.Text

/-!
# The day of a user's first event

A value query by date counts a user on one day only, that of the user's first event that counts. The
plan goes by the head of a list in time order, and sums up in batches, as texts of dates. Here the
same is said of the events as they arrive: the earliest time of a user, its day, and the number of
users with that day.

* `MetricValueParams.counts`, `MetricValueParams.users`: the events and the users that count;
* `MetricValueParams.firstDay?`: the day of a user's first event;
* `head?_time_inTimeOrder`: the head of the events in time order has the earliest time;
* `find?_dateCounts`: the count of a date is the number of its users;
* `Time.Date.text_ofDay_inj`: dates are known from their texts;
* **`decodeValueRows_runMetricValue`**: the rows of a value query by date.
-/

namespace ExperimentQuery

open Finset (card filter)

/-! ## Users and their first days -/

namespace MetricValueParams

variable (q : MetricValueParams) (es : List Event)

/-- An event counts if it lies in the range of days, passes the segment and matches the metric. -/
def counts (e : Event) : Bool :=
  inDays q.start q.stop e && (q.segment.all (·.predicate.accepts e) &&
    (EventPredicate.ofConditions q.metric.eventNames q.metric.conditions).accepts e)

/-- The users with an event that counts. -/
def users : Finset UserKey := ((es.filter q.counts).map (userKey q.extraUserIdProperty)).toFinset

/-- The earliest time of a user's events that count. -/
def firstTime? (k : UserKey) : Option Int :=
  ((eventsOf q.extraUserIdProperty k (es.filter q.counts)).map Event.time).min?

/-- The day of a user's first event that counts. -/
def firstDay? (k : UserKey) : Option Int := (q.firstTime? es k).map (· / Time.millisPerDay)

/-- The users whose first event that counts lies on a day. -/
def newUsers (day : Int) : Finset UserKey :=
  filter (fun k => q.firstDay? es k = some day) (q.users es)

variable {q es}

theorem mem_users {k : UserKey} :
    k ∈ q.users es ↔ ∃ e ∈ es, q.counts e ∧ userKey q.extraUserIdProperty e = k := by
  simp [users, and_assoc]

theorem mem_newUsers {day : Int} {k : UserKey} :
    k ∈ q.newUsers es day ↔ k ∈ q.users es ∧ q.firstDay? es k = some day := Finset.mem_filter

theorem concerns_build (q : MetricValueParams) (e : Event) :
    (MetricValuePlan.build q).concerns e = (q.segment.all (·.predicate.accepts e) &&
      (EventPredicate.ofConditions q.metric.eventNames q.metric.conditions).accepts e) := by
  rw [MetricValuePlan.concerns, MetricValuePlan.build, Option.all_map]
  rfl

/-- The selected names of a plan leave out no event that counts. -/
theorem selectEvents_build (q : MetricValueParams) (es : List Event) :
    selectEvents (MetricValuePlan.build q).selectors q.start q.stop
      (MetricValuePlan.build q).concerns es = es.filter q.counts := by
  refine List.filter_congr fun e _ => ?_
  rw [counts, concerns_build, Bool.and_assoc]
  by_cases haccepts :
      (EventPredicate.ofConditions q.metric.eventNames q.metric.conditions).accepts e
  · have hname : e.name ∈ q.metric.eventNames :=
      List.contains_iff_mem.mp (Bool.and_eq_true_iff.mp haccepts).1
    have hselected : (MetricValuePlan.build q).selectors.contains e.name :=
      List.contains_iff_mem.mpr (Ordered.mem_keys.mpr hname)
    rw [hselected, Bool.true_and]
  · rw [Bool.eq_false_iff.mpr haccepts, Bool.and_false, Bool.and_false, Bool.and_false]

end MetricValueParams

/-! ## The first event -/

/-- **The first event in time order** has the earliest time of all. -/
theorem head?_time_inTimeOrder (es : List Event) :
    (inTimeOrder es).head?.map Event.time = (es.map Event.time).min? := by
  have hperm := inTimeOrder_perm es
  cases hsorted : inTimeOrder es with
  | nil =>
    rw [hsorted] at hperm
    rw [hperm.symm.eq_nil]
    rfl
  | cons e rest =>
    rw [hsorted] at hperm
    have hordered : TimeOrdered (e :: rest) := hsorted ▸ timeOrdered_inTimeOrder es
    refine (List.min?_eq_some_iff.mpr ⟨?_, ?_⟩).symm
    · exact List.mem_map_of_mem (hperm.subset List.mem_cons_self)
    · intro t ht
      obtain ⟨f, hf, rfl⟩ := List.mem_map.mp ht
      rcases List.mem_cons.mp (hperm.mem_iff.mpr hf) with rfl | hf
      · exact Int.le_refl _
      · exact List.rel_of_pairwise_cons hordered hf

theorem mem_keys_groupByUser {property : Option String} {es : List Event} {k : UserKey} :
    k ∈ (groupByUser property es).map (·.1) ↔ ∃ e ∈ es, userKey property e = k := by
  have hempty : eventsOf property k es = [] ↔ ∀ e ∈ es, userKey property e ≠ k := by
    simp [eventsOf, List.filter_eq_nil_iff]
  rw [← Ordered.isSome_find?, find?_groupByUser, Option.isSome_map, nonempty?]
  by_cases hnone : eventsOf property k es = []
  · have hall := hempty.mp hnone
    simp only [hnone, List.isEmpty_nil, if_true, Option.isSome_none, Bool.false_eq_true, false_iff]
    rintro ⟨e, he, hk⟩
    exact hall e he hk
  · have hsome := mt hempty.mpr hnone
    push Not at hsome
    simp only [List.isEmpty_iff, hnone, if_false, Option.isSome_some, true_iff]
    exact hsome

/-! ## Counts by date -/

section

variable {α : Type} [OfNat α 0] [Add α] [Mul α]

/-- A count, if there is anything. -/
def positive? (n : Nat) : Option Nat := if n = 0 then none else some n

theorem positive?_eq_some_iff {n m : Nat} : positive? n = some m ↔ 0 < m ∧ n = m := by
  cases n <;> simp [positive?] <;> omega

theorem getD_positive? (n : Nat) : (positive? n).getD 0 = n := by
  cases n <;> rfl

/-- **The count of a date** is the number of its users, and a date without users has none. -/
theorem find?_dateCounts (users : List (Int × α)) (date : String) :
    Ordered.find? date (dateCounts (reduceByDate [] users)) =
      positive? (users.countP fun u => utcDate u.1 = date) := by
  induction users using List.reverseRecOn with
  | nil => rfl
  | append_singleton users u ih =>
    have hlast : reduceByDate [] (users ++ [u]) = addUser (reduceByDate [] users) u := by
      simp [reduceByDate]
    have hds : Ordered.Increasing (reduceByDate [] users) :=
      increasing_foldl_addUser Ordered.increasing_nil users
    rw [dateCounts, Ordered.find?_mapValues] at ih ⊢
    rw [hlast, find?_addUser hds, List.countP_append, List.countP_singleton]
    by_cases hdate : utcDate u.1 = date
    · have hcount : ((Ordered.find? date (reduceByDate [] users)).getD .empty).count =
          users.countP fun u => utcDate u.1 = date := by
        rw [← getD_positive? (users.countP _), ← ih]
        cases Ordered.find? date (reduceByDate [] users) <;> rfl
      simp [hdate, Summary.push, hcount, positive?]
    · simp [hdate, ih]

end

/-! ## Texts of dates -/

namespace Time.Date

theorem text_ne_empty (d : Date) : d.text ≠ "" := by
  intro h
  have hdash : '-' ∈ d.text.toList := by simp [text]
  rw [h] at hdash
  exact List.not_mem_nil hdash

theorem text_ofDay_inj {a b : Int} (ha : inCalendar a) (hb : inCalendar b)
    (h : (ofDay a).text = (ofDay b).text) : a = b := by
  have hend : EndsDigits [] := trivial
  have hread := dateField_text (valid_ofDay ha) hend
  rw [h, dateField_text (valid_ofDay hb) hend] at hread
  have hdate : ofDay b = ofDay a := congrArg Prod.fst (Option.some.inj hread)
  rw [← toDay_ofDay a, ← toDay_ofDay b, hdate]

end Time.Date

theorem inDays_iff {start stop : Time.Instant} {e : Event} :
    inDays start stop e ↔
      Time.inCalendar (e.time / Time.millisPerDay) ∧
        start.day ≤ e.time / Time.millisPerDay ∧ e.time / Time.millisPerDay ≤ stop.day := by
  unfold inDays Time.dayOfMillis?
  by_cases h : Time.inCalendar (e.time / Time.millisPerDay) <;> simp [h]

theorem utcDate_of_inCalendar {time : Int} (h : Time.inCalendar (time / Time.millisPerDay)) :
    utcDate time = (Time.Date.ofDay (time / Time.millisPerDay)).text := by
  simp [utcDate, Time.dayOfMillis?, h]

/-! ## Users by their first days -/

namespace MetricValueParams

variable {q : MetricValueParams} {es : List Event} {k : UserKey}

theorem exists_of_firstTime? {t : Int} (h : q.firstTime? es k = some t) :
    ∃ e ∈ es, q.counts e ∧ userKey q.extraUserIdProperty e = k ∧ e.time = t := by
  obtain ⟨e, he, rfl⟩ := List.mem_map.mp (List.min?_mem h)
  simp only [eventsOf, List.mem_filter, decide_eq_true_eq] at he
  exact ⟨e, he.1.1, he.1.2, he.2, rfl⟩

theorem isSome_firstTime? (hk : k ∈ q.users es) : (q.firstTime? es k).isSome := by
  obtain ⟨e, he, hcounts, hkey⟩ := mem_users.mp hk
  rw [firstTime?, List.isSome_min?_iff, Ne, List.map_eq_nil_iff, eventsOf, List.filter_eq_nil_iff]
  exact fun h => h e (List.mem_filter.mpr ⟨he, hcounts⟩) (decide_eq_true hkey)

/-- **The first day of a user** lies in the range of days, and its date is that of the user's
earliest time. -/
theorem exists_firstDay? (hk : k ∈ q.users es) :
    ∃ day, q.firstDay? es k = some day ∧ Time.inCalendar day ∧
      q.start.day ≤ day ∧ day ≤ q.stop.day ∧
      (q.firstTime? es k).map utcDate = some (Time.Date.ofDay day).text := by
  obtain ⟨t, ht⟩ := Option.isSome_iff_exists.mp (isSome_firstTime? hk)
  obtain ⟨e, -, hcounts, -, rfl⟩ := exists_of_firstTime? ht
  obtain ⟨hcalendar, hstart, hstop⟩ := inDays_iff.mp (Bool.and_eq_true_iff.mp hcounts).1
  refine ⟨e.time / Time.millisPerDay, ?_, hcalendar, hstart, hstop, ?_⟩
  · rw [firstDay?, ht, Option.map_some]
  · rw [ht, Option.map_some, utcDate_of_inCalendar hcalendar]

/-- The users of a date are those whose first day it is the date of. -/
theorem firstTime?_date_iff (hk : k ∈ q.users es) {day : Int} (hday : Time.inCalendar day) :
    (q.firstTime? es k).any (fun t => utcDate t = (Time.Date.ofDay day).text) ↔
      q.firstDay? es k = some day := by
  obtain ⟨first, hfirst, hcalendar, -, -, hdate⟩ := exists_firstDay? hk
  obtain ⟨t, ht, hdate⟩ := Option.map_eq_some_iff.mp hdate
  rw [hfirst, ht, Option.any_some, decide_eq_true_eq, hdate, Option.some.injEq]
  exact ⟨Time.Date.text_ofDay_inj hcalendar hday, fun h => h ▸ rfl⟩

end MetricValueParams

section

variable (q : MetricValueParams) (es : List Event)

/-- **The users of a query whose values satisfy a test of the time** are those whose earliest time
does. -/
theorem countP_userValues (test : Int → Bool) :
    (userValues (.build q) es).countP (fun u => test u.1) =
      card (filter (fun k => (q.firstTime? es k).any test) (q.users es)) := by
  generalize hgroups : groupByUser q.extraUserIdProperty (es.filter q.counts) = groups
  have hnodup : (groups.map (·.1)).Nodup := hgroups ▸ (increasing_groupByUser _ _).nodup
  have husers : q.users es = (groups.map (·.1)).toFinset := by
    ext k
    rw [MetricValueParams.mem_users, List.mem_toFinset, ← hgroups, mem_keys_groupByUser]
    simp [and_assoc]
  generalize hm : (MetricValuePlan.build q).metric = m
  have hvalues : userValues (.build q) es = groups.filterMap fun u => userValue? m u.2 := by
    rw [← hm, ← hgroups, ← MetricValueParams.selectEvents_build]
    rfl
  have hfirst : ∀ u ∈ groups, (userValue? m u.2).map (·.1) = q.firstTime? es u.1 := by
    intro u hu
    rw [eq_of_mem_groupByUser (hgroups ▸ hu), MetricValueParams.firstTime?,
      ← head?_time_inTimeOrder, userValue?, Option.map_map]
    rfl
  have hcount : groups.countP (fun u => ((userValue? m u.2).map fun v => test v.1).getD false) =
      groups.countP ((fun k => (q.firstTime? es k).any test) ∘ (·.1)) := by
    refine List.countP_congr fun u hu => ?_
    rw [Function.comp_apply, ← hfirst u hu]
    cases userValue? m u.2 <;> rfl
  rw [hvalues, List.countP_filterMap, hcount, ← List.countP_map, List.countP_eq_length_filter,
    husers, ← List.toFinset_filter, List.toFinset_card_of_nodup (hnodup.filter _)]

theorem length_userValues : (userValues (.build q) es).length = card (q.users es) := by
  have hall := countP_userValues q es fun _ => true
  rw [List.countP_true, Finset.filter_true_of_mem] at hall
  · exact hall
  · intro k hk
    obtain ⟨t, ht⟩ := Option.isSome_iff_exists.mp (MetricValueParams.isSome_firstTime? hk)
    rw [ht]
    rfl

/-- The number of values with the date of a day is the number of its new users. -/
theorem countP_userValues_date {day : Int} (hday : Time.inCalendar day) :
    (userValues (.build q) es).countP (fun u => utcDate u.1 = (Time.Date.ofDay day).text) =
      card (q.newUsers es day) := by
  rw [countP_userValues q es fun t => utcDate t = (Time.Date.ofDay day).text]
  exact congrArg card (Finset.filter_congr fun k hk =>
    MetricValueParams.firstTime?_date_iff hk hday)

theorem exists_day_of_countP_pos {date : String}
    (h : 0 < (userValues (.build q) es).countP fun u => utcDate u.1 = date) :
    ∃ day, Time.inCalendar day ∧ q.start.day ≤ day ∧ day ≤ q.stop.day ∧
      date = (Time.Date.ofDay day).text := by
  rw [countP_userValues q es fun t => utcDate t = date, Finset.card_pos] at h
  obtain ⟨k, hk⟩ := h
  obtain ⟨huser, hdate⟩ := Finset.mem_filter.mp hk
  obtain ⟨day, -, hcalendar, hstart, hstop, htext⟩ := MetricValueParams.exists_firstDay? huser
  obtain ⟨t, ht, htext⟩ := Option.map_eq_some_iff.mp htext
  rw [ht, Option.any_some, decide_eq_true_eq] at hdate
  exact ⟨day, hcalendar, hstart, hstop, hdate.symm.trans htext⟩

end

/-! ## Rows -/

theorem date_count_decode (ds : DateSummaries Float) :
    (ds.map fun d => (dateRow d).decode).map (fun r => (r.date, r.count)) = dateCounts ds := by
  rw [List.map_map]
  rfl

theorem decodeValueRows_byDate {ds : DateSummaries Float} (hds : Ordered.Increasing ds)
    (count : Nat) (sum sumSquares : Float) :
    decodeValueRows [.overall count (some sum) (some sumSquares), .byDate (ds.map dateRow)] =
      ⟨"", count, sum, sumSquares⟩ :: ds.map fun d => (dateRow d).decode := by
  have hsorted : (ds.map dateRow).mergeSort (fun a b => a.date ≤ b.date) = ds.map dateRow := by
    refine List.mergeSort_of_pairwise (List.pairwise_map.mpr (List.Pairwise.imp ?_ hds))
    intro d e hlt
    exact decide_eq_true (String.not_lt.mp (String.lt_asymm hlt))
  have hdated : decodeValueRows [.overall count (some sum) (some sumSquares),
      .byDate (ds.map dateRow)] = ⟨"", count, sum, sumSquares⟩ ::
        ((ds.map dateRow).mergeSort fun a b => a.date ≤ b.date).map (·.decode) := by
    simp [decodeValueRows, RawValueRow.overall?, RawValueRow.dated]
  rw [hdated, hsorted, List.map_map]
  rfl

/-- The rows of dates count each user on the day of the user's first event that counts. -/
structure CountsFirstDays (q : MetricValueParams) (es : List Event) (dated : List MetricValueRow) :
    Prop where
  increasing : dated.Pairwise fun r s => r.date < s.date
  nonempty : ∀ r ∈ dated, r.date ≠ ""
  count : ∀ r ∈ dated, ∃ day, q.start.day ≤ day ∧ day ≤ q.stop.day ∧
    r.date = (Time.Date.ofDay day).text ∧ 0 < r.count ∧
    r.count = card (q.newUsers es day)
  once : ∀ k ∈ q.users es, ∃ day, q.firstDay? es k = some day ∧
    ∃! r, r ∈ dated ∧ r.date = (Time.Date.ofDay day).text
  total : (dated.map (·.count)).sum = card (q.users es)

theorem increasing_dateCounts {α : Type} {ds : DateSummaries α} :
    Ordered.Increasing (dateCounts ds) ↔ Ordered.Increasing ds := List.pairwise_map

theorem increasing_dates {dated : List MetricValueRow} :
    Ordered.Increasing (dated.map fun r => (r.date, r.count)) ↔
      dated.Pairwise fun r s => r.date < s.date := List.pairwise_map

section

variable {q : MetricValueParams} {es : List Event} {dated : List MetricValueRow}
  (h : dated.map (fun r => (r.date, r.count)) =
    dateCounts (reduceByDate [] (userValues (.build q) es)))

include h

theorem increasing_dated : Ordered.Increasing (dated.map fun r => (r.date, r.count)) :=
  h ▸ increasing_dateCounts.mpr (increasing_foldl_addUser Ordered.increasing_nil _)

theorem find?_dated (date : String) :
    Ordered.find? date (dated.map fun r => (r.date, r.count)) =
      positive? ((userValues (.build q) es).countP fun u => utcDate u.1 = date) := by
  rw [h, find?_dateCounts]

theorem exists_day_of_mem_dated {r : MetricValueRow} (hr : r ∈ dated) :
    ∃ day, q.start.day ≤ day ∧ day ≤ q.stop.day ∧ r.date = (Time.Date.ofDay day).text ∧
      0 < r.count ∧ r.count = card (q.newUsers es day) := by
  have hrow : Ordered.find? r.date (dated.map fun r => (r.date, r.count)) = some r.count :=
    (increasing_dated h).find?_of_mem (List.mem_map_of_mem hr)
  rw [find?_dated h, positive?_eq_some_iff] at hrow
  obtain ⟨hpos, hcount⟩ := hrow
  obtain ⟨day, hcalendar, hstart, hstop, hdate⟩ := exists_day_of_countP_pos q es (hcount ▸ hpos)
  refine ⟨day, hstart, hstop, hdate, hpos, ?_⟩
  rw [← countP_userValues_date q es hcalendar, ← hcount, hdate]

/-- A user has one row, that of the user's first day. -/
theorem existsUnique_dated {k : UserKey} (hk : k ∈ q.users es) :
    ∃ day, q.firstDay? es k = some day ∧
      ∃! r, r ∈ dated ∧ r.date = (Time.Date.ofDay day).text := by
  obtain ⟨day, hday, hcalendar, -⟩ := MetricValueParams.exists_firstDay? hk
  have hpos : 0 < card (q.newUsers es day) :=
    Finset.card_pos.mpr ⟨k, MetricValueParams.mem_newUsers.mpr ⟨hk, hday⟩⟩
  rw [← countP_userValues_date q es hcalendar] at hpos
  have hrow : (Ordered.find? (Time.Date.ofDay day).text
      (dated.map fun r => (r.date, r.count))).isSome := by
    rw [find?_dated h, positive?_eq_some_iff.mpr ⟨hpos, rfl⟩]
    rfl
  have hnodup := (increasing_dated h).nodup
  rw [Ordered.isSome_find?, List.map_map] at hrow
  rw [List.map_map] at hnodup
  obtain ⟨r, hr, hdate⟩ := List.mem_map.mp hrow
  refine ⟨day, hday, r, ⟨hr, hdate⟩, fun s hs => ?_⟩
  exact List.inj_on_of_nodup_map hnodup hs.1 hr (hs.2.trans hdate.symm)

/-- **Rows with the counts by date of all users** count each user on one day. -/
theorem countsFirstDays_of_dateCounts : CountsFirstDays q es dated where
  increasing := increasing_dates.mp (increasing_dated h)
  nonempty r hr := by
    obtain ⟨day, -, -, hdate, -⟩ := exists_day_of_mem_dated h hr
    exact hdate ▸ Time.Date.text_ne_empty _
  count _ hr := exists_day_of_mem_dated h hr
  once _ hk := existsUnique_dated h hk
  total := by
    rw [← length_userValues, ← sum_dateCounts, ← h, List.map_map]
    rfl

end

/-- **A value query by date counts each user once**, whatever the size of batches: first in the row
over all users, which has no date, and then on the day of the user's first event that counts. -/
theorem decodeValueRows_runMetricValue (q : MetricValueParams) (hq : q.includeByDate)
    (batchSize : Nat) (es : List Event) :
    ∃ overall dated,
      decodeValueRows (runMetricValue batchSize (.build q) es) = overall :: dated ∧
        overall.date = "" ∧ overall.count = card (q.users es) ∧ CountsFirstDays q es dated := by
  generalize hvalues : userValues (.build q) es = values
  have hbatches :
      dateCounts (batchedByDate values batchSize) = dateCounts (reduceByDate [] values) := by
    rw [batchedByDate, dateCounts_map_reduceByDate, flatten_chunks, List.append_nil]
  have hincreasing : Ordered.Increasing (batchedByDate values batchSize) := by
    rw [← increasing_dateCounts, hbatches, increasing_dateCounts]
    exact increasing_foldl_addUser Ordered.increasing_nil values
  have hrun : runMetricValue batchSize (.build q) es =
      [.overall (Summary.ofList (values.map (·.2))).count
          (some (Summary.ofList (values.map (·.2))).sum)
          (some (Summary.ofList (values.map (·.2))).sumSquares),
        .byDate ((batchedByDate values batchSize).map dateRow)] := by
    rw [← hvalues]
    exact congrArg (_ :: ·) (if_pos hq)
  refine ⟨_, _, hrun ▸ decodeValueRows_byDate hincreasing _ _ _, rfl, ?_, ?_⟩
  · exact (Summary.count_ofList _).trans
      ((List.length_map _).trans (hvalues ▸ length_userValues q es))
  · exact countsFirstDays_of_dateCounts (by rw [date_count_decode, hbatches, hvalues])

/-- The visits of each day. -/
def visitValueQuery : MetricValueParams :=
  { name := "Visits"
    metric := visitMetric
    start := ⟨0, 0⟩
    stop := ⟨864000, 0⟩
    includeByDate := true }

/-- A visit on the third day arrives before one of the same user on the first. -/
theorem decodeValueRows_runMetricValue_visits :
    let es := [userEvent "visit" 200000000, { userEvent "visit" 100000000 with distinctId := "v" },
      userEvent "visit" 5000]
    visitValueQuery.includeByDate ∧ card (visitValueQuery.users es) = 2 ∧
      card (visitValueQuery.newUsers es 0) = 1 ∧ card (visitValueQuery.newUsers es 2) = 0 ∧
      ∃ overall dated,
        decodeValueRows (runMetricValue 1 (.build visitValueQuery) es) = overall :: dated ∧
          overall.date = "" ∧ overall.count = card (visitValueQuery.users es) ∧
          CountsFirstDays visitValueQuery es dated := by
  intro es
  exact ⟨rfl, by rfl, by rfl, by rfl, decodeValueRows_runMetricValue visitValueQuery rfl 1 es⟩

end ExperimentQuery
