/-
This file bounds the number of items that a feed may hold.
-/

namespace NodeBridge.Feed

/-- No bounded feed holds more items than this. -/
def maximumCapacity : Nat := 1048576

/-- A wish for more than the maximum gets the maximum. -/
def clamp (requested : Nat) : Nat := min requested maximumCapacity

theorem clampEqSelf {requested : Nat} (fits : requested ≤ maximumCapacity) :
    clamp requested = requested := Nat.min_eq_left fits

end NodeBridge.Feed
