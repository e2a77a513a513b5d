import NodeBridge.Json.Basic

/-
This file counts what the bridge did.
A metric appears once it was touched, and a gauge keeps its last value.
-/

namespace NodeBridge

/-- Observers are counted by topic and contract calls by method. -/
inductive Metric where
  | openAttempts (topic : String)
  | openFailures (topic : String)
  | streamFailures (topic : String)
  | itemsForwarded (topic : String)
  | subscribed (topic : String)
  | callFailures (call : String)
  deriving DecidableEq

/-- The name of a metric carries its label. -/
def Metric.name : Metric → String
  | .openAttempts topic => "bridge_open_attempts_total\x7btopic=" ++ topic ++ "\x7d"
  | .openFailures topic => "bridge_open_failures_total\x7btopic=" ++ topic ++ "\x7d"
  | .streamFailures topic => "bridge_stream_failures_total\x7btopic=" ++ topic ++ "\x7d"
  | .itemsForwarded topic => "bridge_items_forwarded_total\x7btopic=" ++ topic ++ "\x7d"
  | .subscribed topic => "bridge_observer_subscribed\x7btopic=" ++ topic ++ "\x7d"
  | .callFailures call => "bridge_contract_call_failures_total\x7bcall=" ++ call ++ "\x7d"

/-- Each metric stands once, with its value. -/
abbrev Metrics := List (Metric × Nat)

namespace Metrics

def value? (metric : Metric) : Metrics → Option Nat
  | [] => none
  | (key, value) :: rest => if key = metric then some value else value? metric rest

/-- A metric that was never touched counts as zero. -/
def count (metrics : Metrics) (metric : Metric) : Nat := (metrics.value? metric).getD 0

/-- A gauge is set to a value. -/
def set (metric : Metric) (value : Nat) : Metrics → Metrics
  | [] => [(metric, value)]
  | (key, old) :: rest =>
      if key = metric then (key, value) :: rest else (key, old) :: set metric value rest

/-- A counter goes up by one. -/
def increment (metric : Metric) (metrics : Metrics) : Metrics :=
  metrics.set metric (metrics.count metric + 1)

def toJson (metrics : Metrics) : Json :=
  .object (metrics.map fun (metric, value) => (metric.name, .ofNat value))

theorem valueSet (metric other : Metric) (value : Nat) (metrics : Metrics) :
    (metrics.set metric value).value? other =
      if other = metric then some value else metrics.value? other := by
  induction metrics with
  | nil =>
      by_cases same : other = metric
      · simp [set, value?, same]
      · have different : ¬ metric = other := fun equal => same equal.symm
        simp [set, value?, same, different]
  | cons entry rest inductionHypothesis =>
      obtain ⟨key, old⟩ := entry
      by_cases here : key = metric
      · by_cases same : other = metric
        · simp [set, value?, here, same]
        · have different : ¬ metric = other := fun equal => same equal.symm
          simp [set, value?, here, same, different]
      · by_cases found : key = other
        · have different : ¬ other = metric := fun equal => here (found.trans equal)
          simp [set, value?, found, different]
        · simp [set, value?, here, found, inductionHypothesis]

theorem countSet (metric other : Metric) (value : Nat) (metrics : Metrics) :
    (metrics.set metric value).count other = if other = metric then value else metrics.count other := by
  rw [count, valueSet]
  split <;> rfl

theorem countIncrement (metric other : Metric) (metrics : Metrics) :
    (metrics.increment metric).count other =
      metrics.count other + if other = metric then 1 else 0 := by
  rw [increment, countSet]
  by_cases same : other = metric <;> simp [same]

end Metrics

end NodeBridge
