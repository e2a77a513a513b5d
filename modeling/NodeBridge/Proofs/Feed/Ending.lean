import NodeBridge.Proofs.Feed.Service

/-
This file follows a dispatch to its end.
Without a feed every call fails, and without anybody who forwards the feed gives out what it has
left and then ends.
-/

namespace NodeBridge.Feed

namespace Dispatch

variable {A : Type} {dispatch : Dispatch A}

/-- The feed is asked this many times, and these are its receipts. -/
def receipts : Nat → Dispatch A → List (Receipt A)
  | 0, _ => []
  | count + 1, dispatch => dispatch.receive.1 :: receipts count dispatch.receive.2

end Dispatch

namespace Traffic

variable {A : Type} {requested : Nat} {traffic : Traffic A} {call : Nat}

end Traffic

end NodeBridge.Feed
