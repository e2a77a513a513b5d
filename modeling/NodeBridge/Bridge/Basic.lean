import NodeBridge.Bridge.Endpoint
import NodeBridge.Bridge.Query
import NodeBridge.Feed.Dispatch
import NodeBridge.Heads.Source
import NodeBridge.Observer.Session
import NodeBridge.Staking.Facade

/-
This file connects to the node and keeps what the connection serves together.
The observer of new headers is the only work in the background, and closing waits for it.
-/

namespace NodeBridge

/-- The world of a bridge has no worker if its configuration wants no observer.
The timeout of an attempt to subscribe is in whole seconds. -/
structure Bridge where
  facade : Staking.Facade
  pubsub : Bool
  observes : Bool
  openTimeout : UInt64
  shutdownTimeout : Duration
  world : Observer.World Heads.Holder Heads.Header

namespace Bridge

/-- An attempt to subscribe may take this long. -/
def openLimit (bridge : Bridge) : Duration := .ofSeconds bridge.openTimeout.toNat

def source (bridge : Bridge) : Observer.Source Heads.Holder Heads.Header :=
  Heads.source bridge.pubsub bridge.openLimit

/-- The events of a connection name the endpoint as it was configured. -/
def clientEvent (level : Event.Level) (message : String) (rpc : Config.Rpc)
    (fields : List (String × Event.Value)) : Event :=
  ⟨level, .client, message, ("rpc_url", .shown rpc.url) :: fields⟩

def connectedEvent (rpc : Config.Rpc) : Event :=
  clientEvent .info "Connected to the full node" rpc []

/-- A connection that takes too long is reported without a cause. -/
def dialEvent (rpc : Config.Rpc) : DialError → Event
  | .late => clientEvent .error "Full node connection timed out" rpc []
  | error =>
      clientEvent .error "Can not connect to the full node" rpc [("error", .shown error.message)]

def dialFailure (rpc : Config.Rpc) : DialError → Failure
  | .late => .timeout rpc.callTimeout.toNat
  | error => .node ("connection to '" ++ rpc.url ++ "' failed: " ++ error.message)

def unobservedEvent : Event := ⟨.info, .bridge, "Block observer disabled", []⟩

/-- A bridge that observes starts its worker at once. -/
def start (config : Config) (facade : Staking.Facade) (node : Heads.Node) : Bridge :=
  let observer := config.observer
  let capacity := observer.capacity.toNat
  let idle : Observer.World Heads.Holder Heads.Header := { source := { client := { node } } }
  let world :=
    if observer.enabled then
      idle.report (Feed.capacityEvents capacity)
        |>.spawn observer.topic
          (.constant (Duration.ofSeconds observer.retryDelay.toNat)) capacity
    else idle.report [unobservedEvent]
  { facade, world
    pubsub := (Endpoint.ofText config.rpc.url).isPubsub
    observes := observer.enabled
    openTimeout := observer.openTimeout
    shutdownTimeout := Duration.ofSeconds config.lifecycle.shutdownTimeout.toNat }

/-- The contracts are looked at only once the node was reached. -/
def connect (find : String → Except FileTree.ReadError FileTree) (node : Heads.Node)
    (config : Config) (contact : String → Contact := unanswered) :
    Except Failure Bridge × List Event :=
  match (Endpoint.ofText config.rpc.url).dial find contact config.rpc.callTimeout with
  | .error error => (.error (dialFailure config.rpc error), [dialEvent config.rpc error])
  | .ok () =>
      let connected := connectedEvent config.rpc
      match Staking.Facade.ofConfig config with
      | .error cause => (.error (.staking cause), [connected])
      | .ok facade =>
          let bridge := start config facade node
          (.ok { bridge with world := { bridge.world with events := [] } },
            connected :: bridge.world.events)

/-- The status of the observer is known as long as there is one. -/
def status? (bridge : Bridge) : Option Observer.Status :=
  bridge.world.worker.map Observer.Worker.status

/-- The description shows the contracts, the observer and the limit of calls. -/
def description (bridge : Bridge) : String :=
  let observer := match bridge.status? with
    | none => "None"
    | some status => "Some(" ++ status.name ++ ")"
  "Bridge \x7b sfc: " ++ bridge.facade.description ++ ", observer: " ++ observer ++
    ", call_timeout: " ++ (Duration.ofSeconds bridge.facade.callTimeout.toNat).text ++ " \x7d"

def settle (bridge : Bridge) : Bridge :=
  { bridge with world := bridge.world.settle bridge.source }

def advance (milliseconds : Nat) (bridge : Bridge) : Bridge :=
  { bridge with world := bridge.world.advance bridge.source milliseconds }

def closedEvent : Event := ⟨.info, .bridge, "Bridge closed", []⟩

/-- The worker is told to stop and has the whole shutdown timeout for it. -/
def close (bridge : Bridge) : Bool × Bridge :=
  let (clean, world) := bridge.world.trigger.waitWithTimeout bridge.source bridge.shutdownTimeout
  let reported := world.report (if clean then [closedEvent] else [])
  (clean, { bridge with world := { reported with coordinator := reported.coordinator.drop } })

end Bridge

end NodeBridge
