import NodeBridge.Staking.Error

/-
This file lists the ways in which the bridge fails.
-/

namespace NodeBridge.Bridge

/-- The node answers badly or too late, or a contract read fails. -/
inductive Failure where
  | node (reason : String)
  | timeout (seconds : Nat)
  | staking (cause : Staking.Failure)
  deriving DecidableEq

/-- The failure of a contract read keeps its own wording. -/
def Failure.message : Failure → String
  | .node reason => "RPC error: " ++ reason
  | .timeout seconds => "RPC timeout after " ++ toString seconds ++ " seconds"
  | .staking cause => cause.message

end NodeBridge.Bridge
