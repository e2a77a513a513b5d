import NodeBridge.Event
import NodeBridge.Feed.Error
import NodeBridge.Metrics
import NodeBridge.Observer.Error

/-
This file lists what happens in the life of an observer.
The log and the metrics are both read off the happenings.
-/

namespace NodeBridge.Observer

/-- Items are delivered by a subscription, forwarded into the feed and taken out of it. -/
inductive Happening (Item : Type) where
  | started
  | attempted
  | established (number : Nat) (topic : String)
  | refused (error : OpenError) (failures : Nat)
  | delayed (failures : Nat)
  | delivered (number : Nat) (item : Item)
  | broken (number : Nat) (error : StreamError)
  | forwarded (item : Item)
  | unwanted (item : Item)
  | ignored (item : Item)
  | cutOff (item : Item)
  | taken (item : Item)
  | changed (status : Status)
  | closed (number : Nat)
  | abandoned
  | ended

namespace Happening

variable {Item : Type}

def report (level : Event.Level) (message topic : String)
    (fields : List (String × Event.Value)) : Event :=
  ⟨level, .observer, message, ("topic", .shown topic) :: fields⟩

/-- The topic of a new subscription is the one that the subscription gives. -/
def events (topic : String) : Happening Item → List Event
  | started => [report .info "Block observer starting" topic []]
  | established _ subscribed => [report .info "Block subscription established" subscribed []]
  | refused error failures => [⟨.error, .observer, "Can not observe new blocks",
      [("severity", .quoted "critical"), ("topic", .shown topic),
       ("error", .shown error.message), ("attempt", .number failures)]⟩]
  | broken _ error => [report .error "Block subscription failed" topic
      [("error", .shown error.message)]]
  | unwanted _ => [report .warn "No consumer left, discarding items" topic
      [("error", .shown (Feed.ForwardError.message .closed))]]
  | ended => [report .info "Block observer done" topic []]
  | _ => []

/-- The gauge is one exactly while the status is subscribed. -/
def count (topic : String) (metrics : Metrics) : Happening Item → Metrics
  | attempted => metrics.increment (.openAttempts topic)
  | refused _ _ => metrics.increment (.openFailures topic)
  | broken _ _ => metrics.increment (.streamFailures topic)
  | forwarded _ => metrics.increment (.itemsForwarded topic)
  | changed status => metrics.set (.subscribed topic) (if status = .subscribed then 1 else 0)
  | _ => metrics

end Happening

end NodeBridge.Observer
