import NodeBridge.Heads.Broadcast
import NodeBridge.Heads.Node

/-
This file defines the client that keeps a subscription to new headers over one connection.
All subscribers share one subscription, and a lost connection is made again in the background.
-/

namespace NodeBridge.Heads

/-- The newest announcements are kept up to this count. -/
def bufferLimit : Nat := 16

/-- A lost connection is tried this often before the client gives up. -/
def maximumAttempts : Nat := 10

/-- The pause between two attempts to connect is in milliseconds. -/
def retryPause : Nat := 3000

/-- The connection is there, is being made again or is lost for good. -/
inductive Link where
  | connected
  | retrying (due refused : Nat)
  | gone
  deriving DecidableEq

/-- The shared subscription is asked for again under its first request. -/
structure Shared where
  request : Nat
  server : Option ServerId
  broadcast : Nat

/-- An instruction waits until the client has a connection. -/
inductive Instruction where
  | subscribe (request : Nat)
  | unsubscribe

/-- A request that was answered has a handle on a broadcast or an error. -/
structure Handle where
  broadcast : Nat
  place : Nat

structure Client where
  node : Node := {}
  link : Link := .connected
  queue : List Instruction := []
  nextRequest : Nat := 0
  inFlight : List Nat := []
  shared : Option Shared := none
  broadcasts : List (Broadcast Notice) := []
  answers : List (Nat × Except String Handle) := []

/-- This is the wording for a client that has given up. -/
def goneMessage : String := "backend connection task has stopped"

namespace Client

def broadcastOf (client : Client) (index : Nat) : Broadcast Notice :=
  match client.broadcasts[index]? with
  | some broadcast => broadcast
  | none => { limit := bufferLimit, isOpen := false }

def changeBroadcast (index : Nat) (change : Broadcast Notice → Broadcast Notice)
    (client : Client) : Client :=
  { client with broadcasts := client.broadcasts.modify index change }

/-- The subscriber of a request learns its answer once, and that is the first one. -/
def answer (request : Nat) (result : Except String Handle) (client : Client) : Client :=
  { client with answers := client.answers ++ [(request, result)] }

/-- Requests under way are kept in the order of their numbers. -/
def insertFlight (request : Nat) (client : Client) : Client :=
  if client.inFlight.contains request then client
  else
    let earlier := client.inFlight.takeWhile (· < request)
    { client with
      inFlight := earlier ++ request :: client.inFlight.dropWhile (· < request) }

/-- Sending a request to subscribe brings the reply of the node along. -/
def sendSubscribe (request : Nat) (client : Client) : Connection.Outcome × Client :=
  let (outcome, node) := client.node.subscribe
  (outcome, { client with node }.insertFlight request)

/-- A granted subscription takes the place of the shared one or begins it. -/
def grant (request : Nat) (server : ServerId) (client : Client) : Client :=
  match client.shared with
  | some shared =>
      let handle : Handle := ⟨shared.broadcast, (client.broadcastOf shared.broadcast).sent⟩
      let renewed : Client := { client with shared := some { shared with server := some server } }
      renewed.answer request (.ok handle)
  | none =>
      let index := client.broadcasts.length
      let begun : Client := { client with
        broadcasts := client.broadcasts ++ [{ limit := bufferLimit }]
        shared := some ⟨request, some server, index⟩ }
      begun.answer request (.ok ⟨index, 0⟩)

/-- A reply counts only for a request under way. -/
def handleReply (request : Nat) (outcome : Connection.Outcome) (client : Client) : Client :=
  if client.inFlight.contains request then
    let landed := { client with inFlight := client.inFlight.filter (· ≠ request) }
    match outcome with
    | .result value =>
        match ServerId.ofJson? value with
        | some server => landed.grant request server
        | none => landed.answer request (.error Connection.unreadable)
    | .refused code message data =>
        landed.answer request (.error (Connection.refusal code message data))
    | .broken reason => landed.answer request (.error reason)
    | .silent => client
  else client

/-- The subscription is forgotten here, and its readers come to the end of what was kept. -/
def forget (client : Client) : Client :=
  match client.shared with
  | none => client
  | some shared => { client with shared := none }.changeBroadcast shared.broadcast Broadcast.close

/-- Requests to end a subscription all carry this number. -/
def unsubscribeRequest : Nat := 1

/-- The node is told only if it has named the subscription on this connection. -/
def sendUnsubscribe (client : Client) : List (Nat × Connection.Outcome) × Client :=
  match client.shared.bind Shared.server with
  | none => ([], client.forget)
  | some server =>
      ([(unsubscribeRequest, .result (.boolean true))],
        { client with node := client.node.unsubscribe server }.forget)

def perform (client : Client) : Instruction → List (Nat × Connection.Outcome) × Client
  | .subscribe request =>
      let (outcome, next) := client.sendSubscribe request
      ([(request, outcome)], next)
  | .unsubscribe => client.sendUnsubscribe

/-- Instructions are sent in order before any of their replies is read. -/
def performAll : List Instruction → Client → List (Nat × Connection.Outcome) × Client
  | [], client => ([], client)
  | instruction :: rest, client =>
      let (replies, next) := client.perform instruction
      let (others, last) := performAll rest next
      (replies ++ others, last)

def handleReplies (replies : List (Nat × Connection.Outcome)) (client : Client) : Client :=
  replies.foldl (fun client reply => client.handleReply reply.1 reply.2) client

/-- On a new connection the open requests and the subscription are sent again. -/
def resume (client : Client) : Client :=
  let again := client.inFlight.map Instruction.subscribe
  let renewed := client.shared.toList.map fun shared => Instruction.subscribe shared.request
  { client with
    link := .connected
    shared := client.shared.map fun shared => { shared with server := none }
    queue := again ++ renewed ++ client.queue }

/-- A client that gives up fails what is open and ends the subscription. -/
def giveUp (client : Client) : Client :=
  let queued := client.queue.filterMap fun instruction =>
    match instruction with
    | .subscribe request => some request
    | .unsubscribe => none
  let failed := (client.inFlight ++ queued).map fun request => (request, .error goneMessage)
  { client with
    link := .gone, queue := [], inFlight := []
    answers := client.answers ++ failed }.forget

def tryConnect (now refused : Nat) (client : Client) : Client :=
  let (accepted, node) := client.node.connect
  let tried := { client with node }
  if accepted then tried.resume
  else if maximumAttempts ≤ refused + 1 then tried.giveUp
  else { tried with link := .retrying (now + retryPause) (refused + 1) }

def reconnect (now : Nat) (client : Client) : Client :=
  match client.link with
  | .retrying due refused => if due ≤ now then client.tryConnect now refused else client
  | _ => client

/-- Without a connection the instructions wait, and a new connection comes before them. -/
def serve (now : Nat) (client : Client) : Client :=
  let linked := client.reconnect now
  match linked.link with
  | .connected =>
      let (replies, next) := performAll linked.queue { linked with queue := [] }
      next.handleReplies replies
  | _ => linked

/-- A client that has given up refuses every instruction. -/
def instruct (instruction : Instruction) (client : Client) : Option Client :=
  match client.link with
  | .gone => none
  | _ => some { client with queue := client.queue ++ [instruction] }

/-- The connection breaks, and a client that is connected tries again at once. -/
def lose (now : Nat) (client : Client) : Client :=
  match client.link with
  | .connected => { client with link := .retrying now 0 }
  | _ => client

/-- An announcement reaches the readers if it is for the subscription of this moment. -/
def notify (server : ServerId) (notice : Notice) (client : Client) : Client :=
  match client.link, client.shared with
  | .connected, some shared =>
      if shared.server = some server then
        client.changeBroadcast shared.broadcast (Broadcast.send notice)
      else client
  | _, _ => client

/-- The client acts by itself at the next attempt to connect. -/
def due? (client : Client) : Option Nat :=
  match client.link with
  | .retrying due _ => some due
  | _ => none

end Client

end NodeBridge.Heads
