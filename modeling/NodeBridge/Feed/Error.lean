/-
This file names the one way in which forwarding an item fails.
-/

namespace NodeBridge.Feed

/-- Nobody receives any more. -/
inductive ForwardError where
  | closed
  deriving DecidableEq

def ForwardError.message : ForwardError → String
  | .closed => "downstream feed closed"

end NodeBridge.Feed
