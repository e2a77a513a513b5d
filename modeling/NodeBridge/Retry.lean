import NodeBridge.Duration

/-
This file says how long to wait before a failed subscription is opened again.
-/

namespace NodeBridge

/-- A policy maps the count of failures in a row to a delay. -/
abbrev RetryPolicy := Nat → Duration

namespace RetryPolicy

/-- This policy waits equally long after every failure. -/
def constant (delay : Duration) : RetryPolicy := fun _ => delay

/-- Without a choice the delay is half a minute. -/
def standard : RetryPolicy := constant (Duration.ofSeconds 30)

def immediate : RetryPolicy := constant Duration.zero

/-- The delays of a list are taken in order, and the last one repeats. -/
def ofList (delays : List Duration) : RetryPolicy := fun failures =>
  (delays[min (max failures 1) delays.length - 1]?).getD (Duration.ofSeconds 30)

/-- The count of failures stays at its largest value. -/
def maximumFailures : Nat := 4294967295

def nextFailure (failures : Nat) : Nat := min (failures + 1) maximumFailures

end RetryPolicy

end NodeBridge
