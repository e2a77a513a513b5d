import NodeBridge.Feed.Dispatch
import NodeBridge.Observer.Happening
import NodeBridge.Observer.Source
import NodeBridge.Retry
import NodeBridge.Shutdown.Coordinator

/-
This file defines the worker that keeps one subscription alive and hands its items on.
The worker moves in small steps, and it looks at the signal to stop before everything else
except while an attempt to subscribe is under way.
-/

namespace NodeBridge.Observer

/-- A worker holds the subscription of a number in the three phases from watching to blocked.
On its way out it may still hold one, which is closed before the worker is ending. -/
inductive Phase (Item : Type) where
  | created
  | opening
  | pausing (due : Nat)
  | watching (number : Nat)
  | handing (number : Nat) (item : Item)
  | blocked (number : Nat) (item : Item) (ticket : Nat)
  | leaving (held : Option Nat)
  | ending
  | finished
  | stopped

namespace Phase

variable {Item : Type}

/-- This is the number of the subscription that is held. -/
def held? : Phase Item → Option Nat
  | watching number => some number
  | handing number _ => some number
  | blocked number _ _ => some number
  | leaving held => held
  | _ => none

/-- A worker that has ended no longer keeps the feed open. -/
def isOver : Phase Item → Bool
  | finished => true
  | stopped => true
  | _ => false

/-- A worker that has left its loop waits for nothing any more. -/
def hasLeft : Phase Item → Bool
  | leaving _ => true
  | ending => true
  | phase => phase.isOver

end Phase

/-- The worker counts its failures in a row and its subscriptions.
It remembers that the feed was closed or its end was ordered. -/
structure Worker (Item : Type) where
  topic : String
  policy : RetryPolicy
  token : Nat
  failures : Nat := 0
  opened : Nat := 0
  feedClosed : Bool := false
  status : Status := .unsubscribed
  phase : Phase Item := .created
  cancelled : Bool := false

/-- The world of a worker is its source, its feed and those who can stop it. -/
structure World (State Item : Type) where
  clock : Nat := 0
  coordinator : Shutdown.Coordinator := {}
  source : State
  channel : Feed.Channel Item := { capacity := none }
  feedHeld : Bool := false
  worker : Option (Worker Item) := none
  history : List (Nat × Happening Item) := []
  events : List Event := []
  metrics : Metrics := []

namespace World

variable {State Item : Type}

def report (events : List Event) (world : World State Item) : World State Item :=
  { world with events := world.events ++ events }

/-- The history has the newest happening first. -/
def record (topic : String) (happening : Happening Item) (world : World State Item) :
    World State Item :=
  { world with
    history := (world.clock, happening) :: world.history
    events := world.events ++ happening.events topic
    metrics := happening.count topic world.metrics }

def setWorker (worker : Worker Item) (world : World State Item) : World State Item :=
  { world with worker := some worker }

def beginOpen (source : Source State Item) (worker : Worker Item) (world : World State Item) :
    World State Item :=
  { world with source := source.beginOpen world.clock worker.topic world.source }
    |>.record worker.topic .attempted
    |>.setWorker { worker with phase := .opening }

/-- The delay depends on the failures in a row, and the clock runs from here. -/
def beginPause (worker : Worker Item) (world : World State Item) : World State Item :=
  world.record worker.topic (.delayed worker.failures)
    |>.setWorker { worker with
        phase := .pausing (world.clock + (worker.policy worker.failures).milliseconds) }

/-- A subscription takes the next number and starts a new count of failures. -/
def subscribed (topic : String) (worker : Worker Item) (world : World State Item) :
    World State Item :=
  world.record worker.topic (.established worker.opened topic)
    |>.record worker.topic (.changed .subscribed)
    |>.setWorker { worker with
        failures := 0, opened := worker.opened + 1
        status := .subscribed, phase := .watching worker.opened }

def refused (error : OpenError) (worker : Worker Item) (world : World State Item) :
    World State Item :=
  let failures := RetryPolicy.nextFailure worker.failures
  world.record worker.topic (.refused error failures)
    |>.beginPause { worker with failures }

/-- A broken subscription is given up and never closed. -/
def broken (source : Source State Item) (number : Nat) (error : StreamError)
    (worker : Worker Item) (world : World State Item) : World State Item :=
  { world with source := source.abandon world.clock world.source }
    |>.record worker.topic (.broken number error)
    |>.record worker.topic (.changed .unsubscribed)
    |>.beginPause { worker with
        failures := RetryPolicy.nextFailure worker.failures, status := .unsubscribed }

/-- An item that is on its way is dropped, and its place in line is given up. -/
def cutOff (worker : Worker Item) (world : World State Item) : World State Item :=
  match worker.phase with
  | .handing _ item => world.record worker.topic (.cutOff item)
  | .blocked _ item ticket =>
      { world with channel := world.channel.cancel ticket }.record worker.topic (.cutOff item)
  | _ => world

/-- A worker that leaves its loop announces its end and holds what it held. -/
def leave (worker : Worker Item) (world : World State Item) : World State Item :=
  world.cutOff worker
    |>.record worker.topic (.changed .terminating)
    |>.setWorker { worker with
        status := .terminating, phase := .leaving worker.phase.held? }

/-- The subscription that is still held is closed. -/
def closeHeld (source : Source State Item) (held : Option Nat) (worker : Worker Item)
    (world : World State Item) : World State Item :=
  let closed := match held with
    | none => world
    | some number =>
        let (state, events) := source.close world.clock number world.source
        { world with source := state }.record worker.topic (.closed number) |>.report events
  closed.setWorker { worker with phase := .ending }

/-- The token of a worker ends last. -/
def finish (worker : Worker Item) (world : World State Item) : World State Item :=
  let ended := world.record worker.topic .ended
  { ended with coordinator := ended.coordinator.finish worker.token }
    |>.setWorker { worker with phase := .finished }

/-- An item is on its way until the feed has room for it or is closed. -/
def handOver (worker : Worker Item) (number : Nat) (item : Item) (progress : Feed.Progress)
    (world : World State Item) : World State Item :=
  match progress with
  | .accepted =>
      world.record worker.topic (.forwarded item)
        |>.setWorker { worker with phase := .watching number }
  | .closed =>
      world.record worker.topic (.unwanted item)
        |>.setWorker { worker with feedClosed := true, phase := .watching number }
  | .waits ticket => world.setWorker { worker with phase := .blocked number item ticket }

/-- A worker that is stopped from outside gives up its subscription and ends its token. -/
def stop (source : Source State Item) (worker : Worker Item) (world : World State Item) :
    World State Item :=
  let left := world.cutOff worker
  { left with
    source := source.abandon left.clock left.source
    coordinator := left.coordinator.finish worker.token }
    |>.record worker.topic .abandoned
    |>.setWorker { worker with phase := .stopped }

/-- A worker that was not cancelled goes on, unless it has to wait for something. -/
def proceed (source : Source State Item) (worker : Worker Item) (world : World State Item) :
    Option (World State Item) :=
  let stopping := world.coordinator.signalArrives
  match worker.phase with
  | .created => some (world.record worker.topic .started |>.beginOpen source worker)
  | .opening =>
      match source.completion? world.clock world.source with
      | none => none
      | some (.ok topic, state) => some ({ world with source := state }.subscribed topic worker)
      | some (.error error, state) =>
          some ({ world with source := state }.refused error worker)
  | .pausing due =>
      if stopping then some (world.leave worker)
      else if due ≤ world.clock then some (world.beginOpen source worker)
      else none
  | .watching number =>
      if stopping then some (world.leave worker)
      else
        match source.delivery? world.clock number world.source with
        | none => none
        | some (.item item, state) =>
            some ({ world with source := state }.record worker.topic (.delivered number item)
              |>.setWorker { worker with phase := .handing number item })
        | some (.remark event, state) => some ({ world with source := state }.report [event])
        | some (.failure error, state) =>
            some ({ world with source := state }.broken source number error worker)
  | .handing number item =>
      if worker.feedClosed then
        some (world.record worker.topic (.ignored item)
          |>.setWorker { worker with phase := .watching number })
      else if stopping then some (world.leave worker)
      else
        let (progress, channel) := world.channel.offer item
        some ({ world with channel }.handOver worker number item progress)
  | .blocked number item ticket =>
      if stopping then some (world.leave worker)
      else
        match world.channel.poll ticket with
        | (.waits _, _) => none
        | (progress, channel) =>
            some ({ world with channel }.handOver worker number item progress)
  | .leaving held => some (world.closeHeld source held worker)
  | .ending => some (world.finish worker)
  | .finished => none
  | .stopped => none

/-- The worker takes one step. A cancelled worker is stopped where it would have to wait, and on
its way out there is no such place. -/
def step (source : Source State Item) (world : World State Item) : Option (World State Item) :=
  match world.worker with
  | none => none
  | some worker =>
      if worker.cancelled && !worker.phase.hasLeft then some (world.stop source worker)
      else world.proceed source worker

/-- A new worker has a token from the start, even before its first step. -/
def spawn (topic : String) (policy : RetryPolicy) (capacity : Nat) (world : World State Item) :
    World State Item :=
  let (token, coordinator) := world.coordinator.issue
  { world with coordinator, channel := .ofCapacity capacity, feedHeld := true }
    |>.setWorker { topic, policy, token }

/-- A worker is told from outside to stop, and it does so at its next turn. -/
def cancel (world : World State Item) : World State Item :=
  { world with worker := world.worker.map fun worker => { worker with cancelled := true } }

/-- The consumer takes an item out of the feed. -/
def take? (world : World State Item) : Option (Item × World State Item) :=
  world.channel.take?.map fun (item, channel) =>
    (item, { world with
      channel, history := (world.clock, .taken item) :: world.history })

def dropFeed (world : World State Item) : World State Item :=
  { world with channel := world.channel.close, feedHeld := false }

/-- Nothing more will come once the worker is over. -/
def mayDeliver (world : World State Item) : Bool :=
  match world.worker with
  | none => false
  | some worker => !worker.phase.isOver

/-- The consumer gets an item, may wait for one or learns that none will come. -/
def receive (world : World State Item) : Feed.Receipt Item × World State Item :=
  match world.take? with
  | some (item, next) => (.item item, next)
  | none => (if world.mayDeliver then .pending else .ended, world)

/-- These are the times at which attempts began, in their order. -/
def attempts (world : World State Item) : List Nat :=
  (world.history.filterMap fun (time, happening) =>
    match happening with
    | .attempted => some time
    | _ => none).reverse

/-- These are the counts of failures for which a delay was asked, in their order. -/
def delays (world : World State Item) : List Nat :=
  (world.history.filterMap fun (_, happening) =>
    match happening with
    | .delayed failures => some failures
    | _ => none).reverse

def trigger (world : World State Item) : World State Item :=
  let (coordinator, events) := world.coordinator.trigger
  { world with coordinator }.report events

end World

end NodeBridge.Observer
