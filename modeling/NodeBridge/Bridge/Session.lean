import NodeBridge.Bridge.Basic

/-
This file asks a bridge and waits for what it does, on a clock that moves only while somebody waits.
-/

namespace NodeBridge.Bridge

variable {A : Type}

/-- Someone who waits for the bridge gives up after this many milliseconds. -/
def patience : Nat := 20000

/-- Timers go off one after the other until the wish is fulfilled or the deadline has come. -/
def awaitFor (wish : Bridge → Bool) (deadline : Nat) : Nat → Bridge → Bridge
  | 0, bridge => bridge.settle
  | count + 1, bridge =>
      let settled := bridge.settle
      if wish settled then settled
      else
        match settled.world.timer? settled.source with
        | none => settled
        | some due =>
            if due ≤ deadline then
              awaitFor wish deadline count { settled with world := settled.world.jump due }
            else settled

def await (wish : Bridge → Bool) (bridge : Bridge) : Bridge :=
  let burst := bridge.source.burst bridge.world.source
  awaitFor wish (bridge.world.clock + patience) (burst + patience) bridge

/-- The background goes on while an exchange with the node takes its time. -/
def during (exchange : Connection.Exchange) (call : StateM Connection.Exchange A)
    (bridge : Bridge) : A × List Connection.Request × Bridge :=
  let (result, after) := call { exchange with clock := 0, requests := [] }
  (result, after.requests, bridge.advance after.clock)

def askNode (exchange : Connection.Exchange) (question : Question) (bridge : Bridge) :
    Except Failure UInt64 × List Connection.Request × Bridge :=
  bridge.during exchange (ask bridge.facade.callTimeout question)

def checkHealth (exchange : Connection.Exchange) (bridge : Bridge) :
    Bool × List Connection.Request × Bridge :=
  let ((healthy, events), requests, next) :=
    bridge.during exchange (isHealthy bridge.facade.callTimeout)
  (healthy, requests, { next with world := next.world.report events })

/-- A reading counts its failures among those of the bridge. -/
def read (exchange : Connection.Exchange) (reading : Staking.Reading A) (bridge : Bridge) :
    Except Staking.Failure A × List Connection.Request × Bridge :=
  let asked := { exchange with clock := 0, requests := [] }
  let session : Staking.Facade.Session := ⟨asked, bridge.world.metrics⟩
  let (answer, course) := Staking.Inquiry.run bridge.facade.respond reading ⟨session, [], []⟩
  let world := { bridge.world with metrics := course.state.metrics }.report course.events
  let after := course.state.exchange
  (answer, after.requests, { bridge with world }.advance after.clock)

/-- An announcement of the node reaches the bridge before the next step. -/
def announce (server : Heads.ServerId) (notice : Heads.Notice) (bridge : Bridge) : Bridge :=
  let holder := bridge.world.source
  let client := holder.client.notify server notice
  { bridge with world := { bridge.world with source := { holder with client } } }.settle

/-- The feed has something to say once it holds an item or can never hold one again. -/
def isReadable (bridge : Bridge) : Bool :=
  0 < bridge.world.channel.buffer.size || !bridge.world.mayDeliver

def receive (bridge : Bridge) : Feed.Receipt Heads.Header × Bridge :=
  let ready := bridge.await isReadable
  match ready.world.receive with
  | (.item header, world) => (.item header, { ready with world }.settle)
  | (receipt, _) => (receipt, ready)

/-- A session keeps what was logged, and a bridge that was closed can still be looked at. -/
structure Session where
  bridge : Bridge
  closed : Bool := false
  logged : List Event := []

namespace Session

/-- The background comes to rest, and its events are logged. -/
def collect (session : Session) : Session :=
  let settled := session.bridge.settle
  { session with
    logged := session.logged ++ settled.world.events
    bridge := { settled with world := { settled.world with events := [] } } }

def hasLogged (message : String) (session : Session) : Bool :=
  session.logged.any fun event => event.message = message

def awaitLog (message : String) (session : Session) : Session :=
  { session with
    bridge := session.bridge.await fun later =>
      (session.logged ++ later.world.events).any fun event => event.message = message }.collect

/-- A closed bridge takes no more questions. -/
def close (session : Session) : Bool × Session :=
  let (clean, bridge) := session.bridge.close
  (clean, { session with bridge, closed := true })

end Session

end NodeBridge.Bridge
