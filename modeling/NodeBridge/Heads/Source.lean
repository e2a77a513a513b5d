import NodeBridge.Heads.Subscription

/-
This file serves an observer with subscriptions to new headers.
A holder keeps the client together with the attempt or the subscription that is held.
-/

namespace NodeBridge.Heads

/-- At most one attempt is under way and at most one subscription is held. -/
structure Holder where
  client : Client := {}
  attempt : Option Attempt := none
  subscription : Option Subscription := none

namespace Holder

def attend (now : Nat) (holder : Holder) : Holder :=
  { holder with client := holder.client.serve now }

def beginOpen (pubsub : Bool) (limit : Duration) (now : Nat) (name : String) (holder : Holder) :
    Holder :=
  let (attempt, client) := Heads.beginOpen pubsub limit now name holder.client
  { holder with client, attempt := some attempt }

/-- A new subscription is held from the moment in which its attempt ends. -/
def completion? (now : Nat) (holder : Holder) :
    Option (Except Observer.OpenError String × Holder) := do
  let attempt ← holder.attempt
  match ← Heads.completion? now holder.client attempt with
  | .ok handle =>
      return (.ok topic, { holder with attempt := none, subscription := some ⟨some handle⟩ })
  | .error error => return (.error error, { holder with attempt := none })

def delivery? (holder : Holder) : Option (Observer.Delivery Header × Holder) := do
  let subscription ← holder.subscription
  let (delivery, next) := subscription.look holder.client
  return (← delivery, { holder with subscription := some next })

def close (holder : Holder) : Holder × List Event :=
  match holder.subscription with
  | none => (holder, [])
  | some subscription =>
      let (client, _, events) := subscription.close holder.client
      ({ holder with client, subscription := none }, events)

def abandon (holder : Holder) : Holder := { holder with attempt := none, subscription := none }

def deadline? : Attempt → Option Nat
  | .failed _ => none
  | .asked _ deadline _ => some deadline

/-- The deadline of an attempt and the next try to connect are both awaited. -/
def due? (holder : Holder) : Option Nat :=
  match holder.attempt.bind deadline?, holder.client.due? with
  | some deadline, some due => some (min deadline due)
  | some deadline, none => some deadline
  | none, due => due

/-- Every reply takes up to four steps, and so does every announcement that is kept. -/
def burst (holder : Holder) : Nat := 4 * (holder.client.node.replies.length + bufferLimit + 4)

end Holder

/-- A holder is a source of headers. -/
def source (pubsub : Bool) (limit : Duration) : Observer.Source Holder Header where
  attend := Holder.attend
  beginOpen := Holder.beginOpen pubsub limit
  completion? := Holder.completion?
  delivery? := fun _ _ => Holder.delivery?
  close := fun _ _ => Holder.close
  abandon := fun _ => Holder.abandon
  due? := Holder.due?
  burst := Holder.burst

end NodeBridge.Heads
