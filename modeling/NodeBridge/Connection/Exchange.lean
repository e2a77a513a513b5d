import NodeBridge.Json.Printer

/-
This file sends requests to a node and waits for the replies.
An answer that is due exactly at the limit still counts.
-/

namespace NodeBridge.Connection

/-- A node answers, refuses, loses the connection or stays silent. -/
inductive Outcome where
  | result (value : Json)
  | refused (code : Int) (message : String) (data : Option Json)
  | broken (reason : String)
  | silent

/-- The delay of a reply is in milliseconds. -/
structure Reply where
  outcome : Outcome
  delay : Nat := 0

structure Request where
  method : String
  parameters : Json

/-- A call fails with a reason or because the limit passed. -/
inductive CallError where
  | failed (reason : String)
  | late
  deriving DecidableEq

/-- The details of an answer that cannot be read are left out. -/
def unreadable : String := "deserialization error"

/-- The wording of a refusal shows the code, the message and the data. -/
def refusal (code : Int) (message : String) (data : Option Json) : String :=
  let detail := match data with
    | none => ""
    | some value => ", data: " ++ value.compact
  "server returned an error response: error code " ++ toString code ++ ": " ++ message ++ detail

/-- Replies are taken in order, and one outcome stands for all that are missing. -/
structure Exchange where
  clock : Nat := 0
  replies : List Reply := []
  missing : Outcome
  requests : List Request := []

namespace Exchange

/-- The reply to a request is the next one that is waiting. -/
def take (exchange : Exchange) (request : Request) : Reply × Exchange :=
  let sent := { exchange with requests := exchange.requests ++ [request] }
  match exchange.replies with
  | [] => (⟨exchange.missing, 0⟩, sent)
  | reply :: rest => (reply, { sent with replies := rest })

/-- A reply that takes longer than the limit is too late. -/
def arrival (limit : Nat) (reply : Reply) : Except CallError Json :=
  if limit < reply.delay then .error .late
  else
    match reply.outcome with
    | .result value => .ok value
    | .refused code message data => .error (.failed (refusal code message data))
    | .broken reason => .error (.failed reason)
    | .silent => .error .late

/-- This is the time that passes until the reply or the limit. -/
def waiting (limit : Nat) (reply : Reply) : Nat :=
  match reply.outcome with
  | .silent => limit
  | _ => min reply.delay limit

def call (limit : Nat) (request : Request) : StateM Exchange (Except CallError Json) :=
  fun exchange =>
    let (reply, sent) := exchange.take request
    (arrival limit reply, { sent with clock := sent.clock + waiting limit reply })

end Exchange

end NodeBridge.Connection
