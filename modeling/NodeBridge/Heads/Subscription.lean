import NodeBridge.Event
import NodeBridge.Heads.Client
import NodeBridge.Keccak
import NodeBridge.Observer.Source
import NodeBridge.Text.Quoted

/-
This file opens subscriptions to new headers, reads headers from them and closes them.
Headers that were missed are reported as a gap and never as a failure.
-/

namespace NodeBridge.Heads

/-- This is the only topic that is served. -/
def topic : String := "newHeads"

/-- A subscription without a handle was closed. -/
structure Subscription where
  handle : Option Handle

namespace Subscription

/-- The client names a subscription by the digest of its parameters. -/
def localId : String := Hex.text (Keccak.digest "[\"newHeads\"]".toUTF8.toList)

def description (subscription : Subscription) : String :=
  "HeadSubscription \x7b topic: " ++ Text.debugQuote topic ++ ", live: " ++
    (if subscription.handle.isSome then "true" else "false") ++ " \x7d"

def lagEvent (skipped : Nat) : Event :=
  ⟨.warn, .heads, "Header subscription lagged",
    [("topic", .shown topic), ("skipped", .number skipped)]⟩

/-- Announcements that are no headers are passed over in silence. -/
def readFrom : Nat → Broadcast Notice → Nat → Option (Observer.Delivery Header) × Nat
  | 0, _, place => (none, place)
  | count + 1, broadcast, place =>
      match broadcast.read place with
      | (.value (.header header), next) => (some (.item header), next)
      | (.value .other, next) => readFrom count broadcast next
      | (.lagged skipped, next) => (some (.remark (lagEvent skipped)), next)
      | (.pending, next) => (none, next)
      | (.closed, next) => (some (.failure .closed), next)

/-- One look passes over at most as many announcements as are kept. -/
def look (subscription : Subscription) (client : Client) :
    Option (Observer.Delivery Header) × Subscription :=
  match subscription.handle with
  | none => (some (.failure .closed), subscription)
  | some handle =>
      let broadcast := client.broadcastOf handle.broadcast
      let (delivery, place) := readFrom (broadcast.kept.length + 1) broadcast handle.place
      (delivery, ⟨some { handle with place }⟩)

/-- Gaps are reported, and the first header or the end is what counts. -/
def receive (subscription : Subscription) (client : Client) :
    Option (Except Observer.StreamError Header) × Subscription × List Event :=
  match subscription.look client with
  | (some (.item header), next) => (some (.ok header), next, [])
  | (some (.failure error), next) => (some (.error error), next, [])
  | (none, next) => (none, next, [])
  | (some (.remark event), next) =>
      match next.look client with
      | (some (.item header), last) => (some (.ok header), last, [event])
      | (some (.failure error), last) => (some (.error error), last, [event])
      | (_, last) => (none, last, [event])

def closedEvent : Event :=
  ⟨.debug, .heads, "Header subscription closed",
    [("topic", .shown topic), ("id", .shown localId)]⟩

def notClosedEvent : Event :=
  ⟨.warn, .heads, "Failed to unsubscribe from new headers",
    [("topic", .shown topic), ("id", .shown localId), ("error", .shown goneMessage)]⟩

/-- Closing twice has no effect, and a client that has given up is reported. -/
def close (subscription : Subscription) (client : Client) :
    Client × Subscription × List Event :=
  match subscription.handle with
  | none => (client, subscription, [])
  | some _ =>
      match client.instruct .unsubscribe with
      | some next => (next, ⟨none⟩, [closedEvent])
      | none => (client, ⟨none⟩, [notClosedEvent])

end Subscription

/-- An attempt to open waits for the answer to its request until its deadline. -/
inductive Attempt where
  | failed (error : Observer.OpenError)
  | asked (request deadline : Nat) (limit : Duration)

/-- This much time is left until the deadline. -/
def Attempt.remaining (now : Nat) : Attempt → Nat
  | .failed _ => 0
  | .asked _ deadline _ => deadline - now

/-- This is the wording for a connection that cannot carry subscriptions. -/
def requestOnlyMessage : String := "subscriptions are not available on this provider"

/-- Opening sends a request, and what cannot be served fails without one. -/
def beginOpen (pubsub : Bool) (limit : Duration) (now : Nat) (name : String) (client : Client) :
    Attempt × Client :=
  if name ≠ topic then (.failed (.unsupportedTopic name), client)
  else if !pubsub then (.failed (.refused requestOnlyMessage), client)
  else
    let request := client.nextRequest
    match client.instruct (.subscribe request) with
    | none => (.failed (.refused goneMessage), client)
    | some next =>
        (.asked request (now + limit.milliseconds) limit,
          { next with nextRequest := request + 1 })

/-- An answer counts even at the deadline, but a deadline without an answer ends the attempt. -/
def completion? (now : Nat) (client : Client) : Attempt → Option (Except Observer.OpenError Handle)
  | .failed error => some (.error error)
  | .asked request deadline limit =>
      match client.answers.lookup request with
      | some (.ok handle) => some (.ok handle)
      | some (.error reason) => some (.error (.refused reason))
      | none => if deadline ≤ now then some (.error (.timedOut limit)) else none

/-- This is the description of a source with its limit. -/
def sourceDescription (limit : Duration) : String :=
  "HeadSource \x7b open_timeout: " ++ limit.text ++ " \x7d"

end NodeBridge.Heads
