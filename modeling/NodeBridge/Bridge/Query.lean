import NodeBridge.Bridge.Error
import NodeBridge.Connection.Exchange
import NodeBridge.Event
import NodeBridge.Word

/-
This file asks the node for its chain and its latest block.
-/

namespace NodeBridge.Bridge

/-- These questions have no parameters, and a number answers them. -/
inductive Question where
  | chainId
  | blockNumber
  deriving DecidableEq

def Question.request : Question → Connection.Request
  | .chainId => ⟨"eth_chainId", .null⟩
  | .blockNumber => ⟨"eth_blockNumber", .null⟩

/-- A quantity is a number of 64 bits, and a text is read like a word. -/
def quantity? : Json → Option UInt64
  | .text source => do
      let word ← Word.ofText? source
      if word.toNat < UInt64.size then some (UInt64.ofNat word.toNat) else none
  | value => value.count?

/-- The limit of a question is in seconds. -/
def ask (limit : UInt64) (question : Question) :
    StateM Connection.Exchange (Except Failure UInt64) := do
  match ← Connection.Exchange.call (1000 * limit.toNat) question.request with
  | .error .late => return .error (.timeout limit.toNat)
  | .error (.failed reason) => return .error (.node reason)
  | .ok value =>
      match quantity? value with
      | some number => return .ok number
      | none => return .error (.node Connection.unreadable)

def unhealthyEvent (cause : Failure) : Event :=
  ⟨.warn, .bridge, "Full node health check failed", [("error", .shown cause.message)]⟩

/-- A node is healthy if it knows its latest block. -/
def isHealthy (limit : UInt64) : StateM Connection.Exchange (Bool × List Event) := do
  match ← ask limit .blockNumber with
  | .ok _ => return (true, [])
  | .error cause => return (false, [unhealthyEvent cause])

end NodeBridge.Bridge
