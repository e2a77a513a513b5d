import NodeBridge.CommandLine.Basic
import NodeBridge.Daemon.Failure
import NodeBridge.Log.Filter
import NodeBridge.Network.Error
import NodeBridge.Network.SocketAddress

/-
This file prepares the program: its configuration, its log and its metrics endpoint.
-/

namespace NodeBridge.Daemon

/-- The program sees files, the wish for the log and the addresses it can listen at. -/
structure Surroundings where
  find : String → Except FileTree.ReadError FileTree
  logWish : Option String := none
  listen : Network.SocketAddress → Option Network.NetworkError := fun _ => none

/-- The level of the command line takes the place of the configured one. -/
def override (options : CommandLine.Options) (config : Config) : Config :=
  match options.logLevel with
  | none => config
  | some logLevel => { config with observability := { config.observability with logLevel } }

/-- Without a file every setting has its default. -/
def configuration (surroundings : Surroundings) (options : CommandLine.Options) :
    Except Config.LoadError Config :=
  match options.config with
  | none => .ok (override options {})
  | some path => (Config.ofFound (surroundings.find path)).map (override options)

def filter (surroundings : Surroundings) (config : Config) : Log.Filter × List String :=
  Log.Filter.choose surroundings.logWish config.observability.logLevel

def version : String := "0.1.0"

def startingEvent : Event := ⟨.info, .daemon, "axis-bridge v" ++ version ++ " starting", []⟩

/-- A listener that cannot be had is reported, and the program goes on without it. -/
def listeningEvent (surroundings : Surroundings) (address : Network.SocketAddress) : Event :=
  match surroundings.listen address with
  | none =>
      ⟨.info, .metrics, "Metrics endpoint listening", [("address", .shown address.text)]⟩
  | some error =>
      ⟨.error, .daemon, "Failed to start metrics endpoint",
        [("error", .shown ("failed to create HTTP listener: " ++ error.message))]⟩

def metricsEvents (surroundings : Surroundings) (config : Config) : List Event :=
  let address := config.observability.metricsAddress
  if config.observability.metricsEnabled then
    match Network.SocketAddress.parse? address with
    | some parsed => [listeningEvent surroundings parsed]
    | none => [⟨.error, .daemon, "Failed to parse metrics address",
        [("metrics_address", .shown address)]⟩]
  else []

end NodeBridge.Daemon
