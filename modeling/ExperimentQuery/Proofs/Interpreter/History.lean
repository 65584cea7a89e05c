import ExperimentQuery.Proofs.Interpreter.Capture
import Mathlib.Data.List.Find

/-!
# The history of a user

Three moments in the list of a user's events say all that there is to know of the user: the first
exposure, the first later exposure to another variation, which is a conflict, and the event from
which on values are captured. Here they are looked up in the whole list, without a state.

* `Moment`, `moments`: the events of a list with their positions;
* `History.exposure?`, `History.conflict?`, `History.start?`: the three moments;
* **`History.captures`**: the events that count for a metric;
* `History.start?_append_singleton` and its neighbours: what one more event changes.
-/

namespace ExperimentQuery

/-! ## Moments -/

/-- An event with its position in a list. -/
structure Moment where
  position : Nat
  event : Event

/-- The moments of a list of events, in order. -/
def moments (es : List Event) : List Moment := es.zipIdx.map fun q => ⟨q.2, q.1⟩

@[simp]
theorem moments_append_singleton (es : List Event) (e : Event) :
    moments (es ++ [e]) = moments es ++ [⟨es.length, e⟩] := by
  simp [moments, List.zipIdx_append]

@[simp]
theorem map_event_moments (es : List Event) : (moments es).map Moment.event = es := by
  simp only [moments, List.map_map]
  exact List.zipIdx_map_fst 0 es

theorem position_lt_of_mem_moments {es : List Event} {q : Moment} (h : q ∈ moments es) :
    q.position < es.length := by
  obtain ⟨⟨e, i⟩, hi, rfl⟩ := List.mem_map.mp h
  simpa using List.snd_lt_of_mem_zipIdx hi

/-! ## The three moments -/

namespace History

section

variable (p : ExperimentPlan) (es : List Event)

/-- The first exposure. -/
def exposure? : Option Moment := (moments es).find? fun q => p.exposure.accepts q.event

/-- Whether an event is an exposure to another variation than that of `x`. -/
def conflicts (x e : Event) : Bool :=
  p.exposure.accepts e && !sameProperty (e.lookup? p.variationPath) (x.lookup? p.variationPath)

/-- The first exposure after `x` to another variation than that of `x`. -/
def conflict? (x : Moment) : Option Moment :=
  (moments es).find? fun q => x.position < q.position && conflicts p x.event q.event

/-- Whether a moment lies before the conflict, which is at the end of the list if there is none. -/
def beforeConflict (x q : Moment) : Bool := (conflict? p es x).all (q.position < ·.position)

/-- The moment from which on events are captured for a user who enters at `x`: the first
activation between the entry and the conflict, or `x` itself if the plan has no activation. -/
def start? (x : Moment) : Option Moment :=
  if p.activation.isNone then some x
  else (moments es).find? fun q =>
    x.position < q.position && beforeConflict p es x q && !p.exposure.accepts q.event &&
      p.activates q.event

/-- The events that count for a metric, for a user who enters at `x` and whose events are captured
from `a` on: those before the conflict that are no exposures and count from the time of `a` on. Of
the events before `a`, only a metric whose window opens early counts any. -/
def capturesFrom (x a : Moment) (m : MetricStep) : List Event :=
  ((moments es).filter fun q =>
    beforeConflict p es x q && !p.exposure.accepts q.event &&
      (a.position ≤ q.position || m.isEarlyStart) && m.counts a.event.time q.event).map Moment.event

/-- The events that count for a metric. -/
def captures (m : MetricStep) : List Event :=
  match exposure? p es with
  | none => []
  | some x => (start? p es x).elim [] fun a => capturesFrom p es x a m

/-- Where a user stands who enters at `x`. -/
def phase (x : Moment) : Phase :=
  if (conflict? p es x).isSome then .multiVariant
  else if (start? p es x).isSome then .active
  else .exposed

/-- The events that wait for the reference instant. -/
def waiting : List Event := es.filter fun e => !p.exposure.accepts e

end

/-! ## What the moments tell -/

section

variable {p : ExperimentPlan} {es : List Event} {e : Event} {x : Moment}

theorem captures_of_entry (hx : exposure? p es = some x) (m : MetricStep) :
    captures p es m = (start? p es x).elim [] fun a => capturesFrom p es x a m := by
  rw [captures, hx]

theorem phase_eq_multiVariant : phase p es x = .multiVariant ↔ (conflict? p es x).isSome := by
  unfold phase
  cases conflict? p es x <;> cases start? p es x <;> simp

theorem phase_eq_active :
    phase p es x = .active ↔ (conflict? p es x).isNone ∧ (start? p es x).isSome := by
  unfold phase
  cases conflict? p es x <;> cases start? p es x <;> simp

theorem phase_eq_exposed :
    phase p es x = .exposed ↔ (conflict? p es x).isNone ∧ (start? p es x).isNone := by
  unfold phase
  cases conflict? p es x <;> cases start? p es x <;> simp

/-! ## One more event -/

theorem exposure?_append_singleton :
    exposure? p (es ++ [e]) =
      (exposure? p es).or (if p.exposure.accepts e then some ⟨es.length, e⟩ else none) := by
  rw [exposure?, moments_append_singleton, List.find?_append, List.find?_singleton, exposure?]

theorem mem_moments_of_exposure? (h : exposure? p es = some x) : x ∈ moments es :=
  List.mem_of_find?_eq_some h

theorem conflict?_append_singleton (hx : x ∈ moments es) :
    conflict? p (es ++ [e]) x =
      (conflict? p es x).or (if conflicts p x.event e then some ⟨es.length, e⟩ else none) := by
  have hlt := position_lt_of_mem_moments hx
  simp only [conflict?, moments_append_singleton, List.find?_append, List.find?_singleton, hlt,
    decide_true, Bool.true_and]

theorem beforeConflict_append_of_mem (hx : x ∈ moments es) {q : Moment} (hq : q ∈ moments es) :
    beforeConflict p (es ++ [e]) x q = beforeConflict p es x q := by
  have hlt := position_lt_of_mem_moments hq
  rw [beforeConflict, conflict?_append_singleton hx, beforeConflict]
  cases hc : conflict? p es x with
  | some c => rfl
  | none =>
    split_ifs
    · simpa using hlt
    · rfl

theorem beforeConflict_append_last (hx : x ∈ moments es) :
    beforeConflict p (es ++ [e]) x ⟨es.length, e⟩ =
      ((conflict? p es x).isNone && !conflicts p x.event e) := by
  rw [beforeConflict, conflict?_append_singleton hx]
  cases hc : conflict? p es x with
  | some c =>
    have hlt := position_lt_of_mem_moments (List.mem_of_find?_eq_some hc)
    simp
    omega
  | none => split_ifs with h <;> simp [h]

theorem beforeConflict_of_none (hc : conflict? p es x = none) (q : Moment) :
    beforeConflict p es x q = true := by
  rw [beforeConflict, hc, Option.all_none]

theorem start?_append_singleton (hx : x ∈ moments es) :
    start? p (es ++ [e]) x =
      (start? p es x).or
        (if (conflict? p es x).isNone && !p.exposure.accepts e && p.activates e
          then some ⟨es.length, e⟩ else none) := by
  unfold start?
  by_cases hp : p.activation.isNone
  · rw [if_pos hp, if_pos hp, Option.some_or]
  · have hlt := position_lt_of_mem_moments hx
    rw [if_neg hp, if_neg hp, moments_append_singleton, List.find?_append, List.find?_singleton,
      beforeConflict_append_last hx]
    congr 1
    · refine List.find?_congr fun q hq => ?_
      rw [beforeConflict_append_of_mem hx hq]
    · refine if_congr (Bool.eq_iff_iff.mp ?_) rfl rfl
      cases hc : conflict? p es x <;> cases he : p.exposure.accepts e <;> simp [conflicts, hlt, he]

theorem capturesFrom_append_singleton (hx : x ∈ moments es) (a : Moment) (m : MetricStep) :
    capturesFrom p (es ++ [e]) x a m =
      capturesFrom p es x a m ++
        if (conflict? p es x).isNone && !p.exposure.accepts e &&
          (a.position ≤ es.length || m.isEarlyStart) && m.counts a.event.time e
        then [e] else [] := by
  rw [capturesFrom, moments_append_singleton, List.filter_append, List.map_append, capturesFrom]
  congr 1
  · congr 1
    refine List.filter_congr fun q hq => ?_
    rw [beforeConflict_append_of_mem hx hq]
  · rw [List.filter_cons, List.filter_nil, beforeConflict_append_last hx]
    cases hc : conflict? p es x <;> cases he : p.exposure.accepts e <;> simp [conflicts, he]
    split_ifs <;> rfl

/-- Before the start, only a metric whose window opens early counts events. -/
theorem capturesFrom_of_start_last (hc : conflict? p es x = none) {a : Moment}
    (ha : ∀ q ∈ moments es, a.position ≤ q.position → p.exposure.accepts q.event)
    (m : MetricStep) :
    capturesFrom p es x a m =
      (waiting p es).filter fun e => m.isEarlyStart && m.counts a.event.time e := by
  rw [waiting, List.filter_filter]
  conv_rhs => rw [← map_event_moments es, List.filter_map]
  rw [capturesFrom]
  congr 1
  refine List.filter_congr fun q hq => ?_
  rw [beforeConflict_of_none hc, Function.comp_apply]
  by_cases hle : a.position ≤ q.position
  · simp [ha q hq hle]
  · simp only [hle, decide_false, Bool.true_and, Bool.false_or]
    ac_rfl

@[simp]
theorem waiting_append_singleton :
    waiting p (es ++ [e]) = waiting p es ++ if p.exposure.accepts e then [] else [e] := by
  cases he : p.exposure.accepts e <;> simp [waiting, he]

theorem exposure?_append_of_some (hx : exposure? p es = some x) :
    exposure? p (es ++ [e]) = some x := by
  rw [exposure?_append_singleton, hx, Option.some_or]

theorem start?_mem (hx : x ∈ moments es) {a : Moment} (ha : start? p es x = some a) :
    a ∈ moments es := by
  unfold start? at ha
  split_ifs at ha with hp
  · cases ha
    exact hx
  · exact List.mem_of_find?_eq_some ha

/-! ## An entry at the end -/

theorem not_length_lt_of_mem {q : Moment} (hq : q ∈ moments (es ++ [e])) :
    ¬ es.length < q.position := by
  have := position_lt_of_mem_moments hq
  simp only [List.length_append, List.length_singleton] at this
  omega

theorem conflict?_last : conflict? p (es ++ [e]) ⟨es.length, e⟩ = none := by
  refine List.find?_eq_none.mpr fun q hq => ?_
  simp [not_length_lt_of_mem hq]

theorem start?_last :
    start? p (es ++ [e]) ⟨es.length, e⟩ =
      if p.activation.isNone then some ⟨es.length, e⟩ else none := by
  unfold start?
  congr 1
  refine List.find?_eq_none.mpr fun q hq => ?_
  simp [not_length_lt_of_mem hq]

theorem capturesFrom_last (he : p.exposure.accepts e = true) (m : MetricStep) :
    capturesFrom p (es ++ [e]) ⟨es.length, e⟩ ⟨es.length, e⟩ m =
      (waiting p es).filter fun q => m.isEarlyStart && m.counts e.time q := by
  rw [capturesFrom_of_start_last conflict?_last, waiting_append_singleton, if_pos he,
    List.append_nil]
  intro q hq hle
  rw [moments_append_singleton, List.mem_append, List.mem_singleton] at hq
  rcases hq with hq | rfl
  · exact absurd (position_lt_of_mem_moments hq) (Nat.not_lt.mpr hle)
  · exact he

end

end History

end ExperimentQuery
