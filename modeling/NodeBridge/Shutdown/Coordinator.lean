import NodeBridge.Duration
import NodeBridge.Event

/-
This file coordinates the end of the background work.
The signal to stop is given once and never taken back, and whoever waits for the workers
returns when the last token has ended or its deadline has passed.
-/

namespace NodeBridge.Shutdown

/-- A waiter is about to look, sleeps until a token ends, or has returned. -/
inductive Phase where
  | scheduled
  | parked
  | returned (clean : Bool)
  deriving DecidableEq

/-- A waiter with a limit gives up when the clock reaches its deadline. -/
structure Waiter where
  limit : Option Duration
  deadline : Option Nat
  phase : Phase := .scheduled
  deriving DecidableEq

def Waiter.isDone (waiter : Waiter) : Bool :=
  match waiter.phase with
  | .returned _ => true
  | _ => false

/-- Every token is listed with whether it is still held. -/
structure Coordinator where
  outstanding : Nat := 0
  released : Nat := 0
  triggered : Bool := false
  held : Bool := true
  tokens : List Bool := []
  waiters : List Waiter := []

namespace Coordinator

/-- A new token is outstanding at once, and its number is its place in the list. -/
def issue (coordinator : Coordinator) : Nat × Coordinator :=
  (coordinator.tokens.length,
    { coordinator with
      outstanding := coordinator.outstanding + 1
      tokens := coordinator.tokens ++ [true] })

def wakeUp (waiter : Waiter) : Waiter :=
  if waiter.phase = .parked then { waiter with phase := .scheduled } else waiter

/-- A token ends once, and all waiters that sleep look again. -/
def finish (token : Nat) (coordinator : Coordinator) : Coordinator :=
  if coordinator.tokens[token]? = some true then
    { coordinator with
      outstanding := coordinator.outstanding - 1
      released := coordinator.released + 1
      tokens := coordinator.tokens.set token false
      waiters := coordinator.waiters.map wakeUp }
  else coordinator

def triggerEvent (pending : Nat) : Event :=
  { level := .info, component := .shutdown, message := "Shutdown triggered"
    fields := [("pending", .number pending)] }

/-- Only the first signal is reported. -/
def trigger (coordinator : Coordinator) : Coordinator × List Event :=
  ({ coordinator with triggered := true },
    if coordinator.triggered then [] else [triggerEvent coordinator.outstanding])

def deadlineEvent (pending : Nat) (limit : Duration) : Event :=
  { level := .warn, component := .shutdown
    message := "Shutdown deadline exceeded with tasks still running"
    fields := [("pending", .number pending), ("deadline_secs", .number limit.seconds)] }

/-- A new waiter looks as soon as it gets its turn. -/
def startWait (limit : Option Duration) (now : Nat) (coordinator : Coordinator) :
    Nat × Coordinator :=
  let waiter : Waiter := { limit, deadline := limit.map fun span => now + span.milliseconds }
  (coordinator.waiters.length,
    { coordinator with waiters := coordinator.waiters ++ [waiter] })

/-- Tokens are counted before the clock is read, so a late look may still succeed. -/
def look (now : Nat) (waiter : Waiter) (coordinator : Coordinator) : Phase × List Event :=
  if waiter.phase ≠ .scheduled then (waiter.phase, [])
  else if coordinator.outstanding = 0 then (.returned true, [])
  else
    match waiter.limit, waiter.deadline with
    | some limit, some deadline =>
        if deadline ≤ now then
          (.returned false, [deadlineEvent coordinator.outstanding limit])
        else (.parked, [])
    | _, _ => (.parked, [])

/-- A waiter that gets its turn returns or goes to sleep. -/
def poll (now index : Nat) (coordinator : Coordinator) : Coordinator × List Event :=
  match coordinator.waiters[index]? with
  | none => (coordinator, [])
  | some waiter =>
      let (phase, events) := coordinator.look now waiter
      ({ coordinator with waiters := coordinator.waiters.set index { waiter with phase } }, events)

/-- A sleeping waiter whose deadline has come gets another turn. -/
def wakeAt (now : Nat) (waiter : Waiter) : Waiter :=
  match waiter.deadline with
  | some deadline => if deadline ≤ now then wakeUp waiter else waiter
  | none => waiter

def wakeDue (now : Nat) (coordinator : Coordinator) : Coordinator :=
  { coordinator with waiters := coordinator.waiters.map (wakeAt now) }

/-- The owner lets go of the coordinator. -/
def drop (coordinator : Coordinator) : Coordinator := { coordinator with held := false }

/-- The coordinator lives on in the waiters that have not returned. -/
def isGone (coordinator : Coordinator) : Bool :=
  !coordinator.held && coordinator.waiters.all Waiter.isDone

/-- A signal arrives once it was given, and also when nobody is left who could give it. -/
def signalArrives (coordinator : Coordinator) : Bool :=
  coordinator.triggered || coordinator.isGone

end Coordinator

end NodeBridge.Shutdown
