import NodeBridge.Duration

/-
This file relates spans of time to timers that count whole milliseconds.
-/

namespace NodeBridge.Duration

variable {duration span : Duration} {count : Nat}

theorem ltIff : duration < span ↔ duration.toNanoseconds < span.toNanoseconds := Iff.rfl

theorem leIff : duration ≤ span ↔ duration.toNanoseconds ≤ span.toNanoseconds := Iff.rfl

theorem nanosecondsOfMilliseconds (count : Nat) :
    (ofMilliseconds count).toNanoseconds = count * 1000000 := by
  simp only [toNanoseconds, ofMilliseconds]
  omega

/-- A timer goes off at the first of its ticks at which the span has passed. -/
theorem millisecondsLe : duration.milliseconds ≤ count ↔ duration ≤ ofMilliseconds count := by
  have bounded := duration.bounded
  rw [leIff, nanosecondsOfMilliseconds, milliseconds, toNanoseconds]
  omega

theorem ltMilliseconds : count < duration.milliseconds ↔ ofMilliseconds count < duration := by
  have reached : duration.milliseconds ≤ count ↔ _ := millisecondsLe
  rw [leIff] at reached
  rw [ltIff]
  omega

@[simp] theorem millisecondsOfMilliseconds (count : Nat) :
    (ofMilliseconds count).milliseconds = count := by
  simp only [milliseconds, ofMilliseconds]
  omega

@[simp] theorem millisecondsOfSeconds (count : Nat) :
    (ofSeconds count).milliseconds = 1000 * count := by
  simp only [milliseconds, ofSeconds]
  omega

end NodeBridge.Duration
