import NodeBridge.Bridge.Session
import NodeBridge.Daemon.Startup
import NodeBridge.Staking.Accessor

/-
This file runs the program from its arguments to its end.
The program serves until a signal arrives, and then it closes the bridge.
-/

namespace NodeBridge.Daemon

/-- Three signals end the program. -/
inductive Signal where
  | interrupt
  | terminate
  | quit
  deriving DecidableEq

def Signal.name : Signal → String
  | .interrupt => "SIGINT"
  | .terminate => "SIGTERM"
  | .quit => "SIGQUIT"

/-- What the node and the user do while the program runs. -/
structure Visit where
  exchange : Connection.Exchange
  contact : String → Bridge.Contact := Bridge.unanswered
  node : Heads.Node := {}
  notices : List Heads.Notice := []
  signal : Option Signal := none

/-- A run leaves a text, an ordered log, remarks beside the log and the number of its exit. -/
structure Report where
  exit : Nat
  text : String := ""
  json : Bool := false
  events : List Event := []
  remarks : String := ""

/-- A version has at least six digits. -/
def versionText (version : UInt64) : String := Hex.padded 6 version.toNat

def versionEvent : Except Staking.Failure UInt64 → Event
  | .ok version =>
      ⟨.info, .daemon, "SFC contract ready", [("sfc_version", .quoted (versionText version))]⟩
  | .error failure =>
      ⟨.warn, .daemon, "SFC contract not reachable", [("error", .shown failure.message)]⟩

/-- The events of a bridge are taken over by the log. -/
def collect (bridge : Bridge) : List Event × Bridge :=
  (bridge.world.events, { bridge with world := { bridge.world with events := [] } })

def headerEvent (header : Heads.Header) : Event :=
  ⟨.info, .daemon, "New block header",
    [("number", .number header.number), ("hash", .shown header.hashText)]⟩

/-- The consumer reports every header that it takes. -/
def consume (bridge : Bridge) : Bridge :=
  let (headers, world) := bridge.world.drain bridge.source
  { bridge with world := world.report (headers.map headerEvent) }

def liveServer? (bridge : Bridge) : Option Heads.ServerId :=
  bridge.world.source.client.shared.bind Heads.Shared.server

/-- Announcements are made only to a bridge that is subscribed. -/
def announceAll (notices : List Heads.Notice) (bridge : Bridge) : Bridge :=
  if notices.isEmpty then bridge
  else
    let ready := bridge.await fun later => later.status? = some .subscribed
    match liveServer? ready with
    | none => ready
    | some server =>
        notices.foldl (fun bridge notice => consume (bridge.announce server notice)) ready

def signalEvent (signal : Signal) : Event :=
  ⟨.info, .signals, "Termination signal received", [("signal", .quoted signal.name)]⟩

def forcedEvent : Event :=
  ⟨.warn, .daemon, "Forcing exit with background tasks still running", []⟩

def completeEvent : Event := ⟨.info, .daemon, "Shutdown complete", []⟩

/-- The bridge is closed after the signal, and tasks that do not end are left behind. -/
def finish (signal : Signal) (bridge : Bridge) : List Event :=
  let (clean, closed) := bridge.close
  let forced := if clean then [] else [forcedEvent]
  signalEvent signal :: closed.settle.world.events ++ forced ++ [completeEvent]

/-- The version is asked for first, and its reading is part of the log. -/
def serve (visit : Visit) (bridge : Bridge) : List Event :=
  let (answer, _, asked) := bridge.read visit.exchange Staking.version
  let (asking, ready) := collect asked
  let (serving, served) := collect (announceAll visit.notices ready.settle)
  let ending := match visit.signal with
    | none => []
    | some signal => finish signal served
  asking ++ [versionEvent answer] ++ serving ++ ending

/-- The program that has its configuration connects and serves. -/
def runWith (surroundings : Surroundings) (visit : Visit) (config : Config) : Report :=
  let (filter, remarks) := filter surroundings config
  let early := startingEvent :: metricsEvents surroundings config
  let (connected, events) := Bridge.connect surroundings.find visit.node config visit.contact
  let (exit, later, failure) : Nat × List Event × String := match connected with
    | .error cause => (1, [], (Failure.bridge cause).message)
    | .ok bridge => (0, serve visit bridge, "")
  { exit
    json := config.observability.jsonLogs
    events := (early ++ events ++ later).filter filter.passes
    remarks := String.join (remarks.map (· ++ "\n")) ++ failure }

def run (surroundings : Surroundings) (visit : Visit) (arguments : List String) : Report :=
  match CommandLine.parse arguments with
  | .help => { exit := 0, text := CommandLine.helpText }
  | .refused error => { exit := 2, remarks := error.message }
  | .run options =>
      match configuration surroundings options with
      | .error cause => { exit := 1, remarks := (Failure.configuration cause).message }
      | .ok config => runWith surroundings visit config

end NodeBridge.Daemon
