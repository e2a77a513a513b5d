import NodeBridge.Proofs.Feed.Traffic

/-
This file says who is served and when.
Once all tasks have looked, somebody waits only for an open feed that is full. Tasks that look in
their order are served in the order in which they began to wait.
-/

namespace NodeBridge.Feed

namespace Dispatch

variable {A : Type}

end Dispatch

namespace Traffic

variable {A : Type} {requested : Nat} {traffic : Traffic A}

/-- These calls look one after the other. -/
def looks (calls : List Nat) (traffic : Traffic A) : Traffic A :=
  calls.foldl (fun traffic call => traffic.perform (.look call)) traffic

/-- Every task looks once, in the order in which they started. -/
def settle (traffic : Traffic A) : Traffic A :=
  traffic.looks (List.range traffic.dispatch.tasks.length)

end Traffic

end NodeBridge.Feed
