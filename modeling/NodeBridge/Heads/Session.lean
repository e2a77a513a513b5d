import NodeBridge.Heads.Subscription

/-
This file opens and reads subscriptions on a clock that moves only while everybody waits.
-/

namespace NodeBridge.Heads

/-- Subscriptions are numbered in the order in which they were opened. -/
structure Session where
  pubsub : Bool
  limit : Duration
  clock : Nat := 0
  client : Client
  subscriptions : List Subscription := []
  events : List Event := []

namespace Session

/-- The first connection is made before anything else. -/
def start (pubsub : Bool) (limit : Duration) : Session :=
  { pubsub, limit, client := { node := { connects := if pubsub then 1 else 0 } } }

def settle (session : Session) : Session :=
  { session with client := session.client.serve session.clock }

/-- The caller looks before the client whenever the clock has moved. -/
def awaitOpen (attempt : Attempt) :
    Nat → Session → Except Observer.OpenError Handle × Session
  | 0, session => (.error (.timedOut session.limit), session)
  | count + 1, session =>
      match completion? session.clock session.client attempt with
      | some result => (result, session)
      | none =>
          let settled := session.settle
          match completion? settled.clock settled.client attempt with
          | some result => (result, settled)
          | none =>
              let deadline := session.clock + Attempt.remaining session.clock attempt
              let due := min ((settled.client.due?).getD deadline) deadline
              awaitOpen attempt count { settled with clock := max settled.clock due }

/-- The client gives up before this many timers have gone off. -/
def openSteps : Nat := maximumAttempts + 4

def openTopic (name : String) (session : Session) :
    Except Observer.OpenError Subscription × Session :=
  let (attempt, client) := beginOpen session.pubsub session.limit session.clock name session.client
  let (result, opened) := awaitOpen attempt openSteps { session with client }
  match result with
  | .error error => (.error error, opened)
  | .ok handle =>
      let subscription : Subscription := ⟨some handle⟩
      (.ok subscription,
        { opened with subscriptions := opened.subscriptions ++ [subscription] })

def advanceFor : Nat → Nat → Session → Session
  | 0, time, session => { session with clock := time }.settle
  | count + 1, time, session =>
      match session.client.due? with
      | none => { session with clock := time }.settle
      | some due =>
          if due ≤ time then
            advanceFor count time { session with clock := max session.clock due }.settle
          else { session with clock := time }.settle

def advance (milliseconds : Nat) (session : Session) : Session :=
  advanceFor openSteps (session.clock + milliseconds) session

def receive? (index : Nat) (session : Session) :
    Option (Option (Except Observer.StreamError Header) × Session) :=
  (session.subscriptions[index]?).map fun subscription =>
    let (delivery, next, events) := subscription.receive session.client
    (delivery, { session with
      subscriptions := session.subscriptions.set index next
      events := session.events ++ events })

def close? (index : Nat) (session : Session) : Option (Subscription × Session) :=
  (session.subscriptions[index]?).map fun subscription =>
    let (client, next, events) := subscription.close session.client
    (next, { session with
      client
      subscriptions := session.subscriptions.set index next
      events := session.events ++ events })

/-- The connection dies, and the next attempts to make it again are refused. -/
def breakLink (refusals : Nat) (session : Session) : Session :=
  if !session.pubsub then session else
  let node := { session.client.node with refusals }
  { session with client := { session.client with node }.lose session.clock }

end Session

end NodeBridge.Heads
