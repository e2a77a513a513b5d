import NodeBridge.Event
import NodeBridge.Observer.Error

/-
This file says what an observer needs from a place that serves subscriptions.
A source is looked at again and again, and it says each time whether something is ready.
-/

namespace NodeBridge.Observer

/-- A subscription delivers an item, remarks on something or fails for good. -/
inductive Delivery (Item : Type) where
  | item (value : Item)
  | remark (event : Event)
  | failure (error : StreamError)

/-- Subscriptions are numbered in the order of their openings, and all operations see the clock. -/
structure Source (State Item : Type) where
  /-- The source does its own work while the worker waits. -/
  attend : Nat → State → State
  /-- An attempt to subscribe to a topic begins. -/
  beginOpen : Nat → String → State → State
  /-- An attempt ends with the topic of the new subscription or with an error. -/
  completion? : Nat → State → Option (Except OpenError String × State)
  /-- The subscription of a number has something to deliver. -/
  delivery? : Nat → Nat → State → Option (Delivery Item × State)
  /-- The subscription of a number is torn down. -/
  close : Nat → Nat → State → State × List Event
  /-- A subscription or an attempt is given up without a word to the other side. -/
  abandon : Nat → State → State
  /-- The source changes by itself at this time. -/
  due? : State → Option Nat
  /-- This many steps of a worker are enough to use up all that is ready. -/
  burst : State → Nat

end NodeBridge.Observer
