import NodeBridge.Duration

/-
This file lists the ways in which subscriptions fail and the states of an observer.
-/

namespace NodeBridge.Observer

/-- A subscription is refused, takes too long or is not served. -/
inductive OpenError where
  | refused (reason : String)
  | timedOut (limit : Duration)
  | unsupportedTopic (topic : String)
  deriving DecidableEq

def OpenError.message : OpenError → String
  | .refused reason => "RPC error: " ++ reason
  | .timedOut limit => "subscription request timed out after " ++ limit.text
  | .unsupportedTopic topic => "unsupported subscription topic '" ++ topic ++ "'"

/-- A live subscription ends or its transport breaks. -/
inductive StreamError where
  | closed
  | transport (reason : String)
  deriving DecidableEq

def StreamError.message : StreamError → String
  | .closed => "subscription stream closed"
  | .transport reason => "subscription transport error: " ++ reason

/-- An observer is subscribed while it holds a live subscription. -/
inductive Status where
  | unsubscribed
  | subscribed
  | terminating
  deriving DecidableEq

def Status.text : Status → String
  | .unsubscribed => "unsubscribed"
  | .subscribed => "subscribed"
  | .terminating => "terminating"

/-- This is the name of a status in descriptions of larger values. -/
def Status.name : Status → String
  | .unsubscribed => "Unsubscribed"
  | .subscribed => "Subscribed"
  | .terminating => "Terminating"

end NodeBridge.Observer
