import Mathlib.Tactic.SplitIfs
import ExperimentQuery.Interpreter.UserState

/-!
# Capturing events

The lists of a user have one entry for each metric, and capturing an event extends the entry of
each metric on its own.

* `MetricStep.counts`: whether an event counts for a metric from a reference instant on;
* `captureFor_map`: one event;
* **`replay_map`**: the events of a queue, one after the other.
-/

namespace ExperimentQuery

/-- Whether an event matches a metric and lies in its window. -/
def MetricStep.counts (m : MetricStep) (start : Int) (e : Event) : Bool :=
  m.predicate.accepts e && m.inWindow e.time start

variable {α : Type} (read : MetricStep → Event → α)

theorem captureFor_map (metrics : List MetricStep) (wants : MetricStep → Bool) (start : Int)
    (e : Event) (f : MetricStep → List α) :
    captureFor read metrics wants start e (metrics.map f) =
      metrics.map fun m => f m ++ if wants m && m.counts start e then [read m e] else [] := by
  rw [captureFor, List.zipWith_map_right, List.zipWith_self]
  refine List.map_congr_left fun m _ => ?_
  rw [MetricStep.counts, ← Bool.and_assoc]
  split_ifs <;> simp

/-- **Replaying a queue** appends to the list of each metric the events that count for it. -/
theorem replay_map (metrics : List MetricStep) (wants : MetricStep → Bool) (start : Int)
    (queue : List Event) (f : MetricStep → List α) :
    queue.foldl (fun values e => captureFor read metrics wants start e values) (metrics.map f) =
      metrics.map fun m =>
        f m ++ (queue.filter fun e => wants m && m.counts start e).map (read m) := by
  induction queue generalizing f with
  | nil => simp
  | cons e queue ih =>
    rw [List.foldl_cons, captureFor_map, ih]
    refine List.map_congr_left fun m _ => ?_
    rw [List.filter_cons]
    split_ifs <;> simp

section

variable {read}

theorem length_captureFor {metrics : List MetricStep} {values : List (List α)}
    (h : values.length = metrics.length) (wants : MetricStep → Bool) (start : Int) (e : Event) :
    (captureFor read metrics wants start e values).length = metrics.length := by
  rw [captureFor, List.length_zipWith, h, Nat.min_self]

theorem length_replay {metrics : List MetricStep} {values : List (List α)}
    (h : values.length = metrics.length) (wants : MetricStep → Bool) (start : Int)
    (queue : List Event) :
    (queue.foldl (fun values e => captureFor read metrics wants start e values) values).length =
      metrics.length := by
  induction queue generalizing values with
  | nil => exact h
  | cons e queue ih => exact ih (length_captureFor h wants start e)

end

end ExperimentQuery
