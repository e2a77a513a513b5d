import NodeBridge.Address

/-
This file lists the ways in which a contract read fails.
-/

namespace NodeBridge

/-- A byte that is no digit is shown as the character of the same number. -/
def Address.ParseError.message : Address.ParseError → String
  | .oddLength => "odd number of digits"
  | .wrongLength => "invalid string length"
  | .badCharacter byte position =>
      "invalid character '" ++ String.singleton (Char.ofNat byte.toNat) ++ "' at position " ++
        toString position

namespace Staking

/-- A value is refused when it cannot be what its field holds. -/
inductive Malformation where
  | address (name value : String) (cause : Address.ParseError)
  | penaltyLength (received : Nat)
  | tooLarge (name : String) (value : Word)
  | reported (reason : String)
  deriving DecidableEq

def Malformation.message : Malformation → String
  | .address name value cause => name ++ " '" ++ value ++ "': " ++ cause.message
  | .penaltyLength received =>
      "unlock penalty: expected 32 bytes, received " ++ toString received
  | .tooLarge name value => name ++ " " ++ value.decimal ++ " does not fit into 64 bits"
  | .reported reason => reason

/-- A call fails at the node or in time, and a value or a contract may be unfit. -/
inductive Failure where
  | call (method reason : String)
  | timeout (method : String) (seconds : Nat)
  | malformed (cause : Malformation)
  | notConfigured (contract : String)
  deriving DecidableEq

def Failure.message : Failure → String
  | .call method reason => method ++ " failed: " ++ reason
  | .timeout method seconds =>
      method ++ " timed out after " ++ toString seconds ++ " seconds"
  | .malformed cause => "malformed response: " ++ cause.message
  | .notConfigured contract => contract ++ " contract not configured"

end Staking

end NodeBridge
