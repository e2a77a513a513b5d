/-
This file defines the events that the bridge reports about its own work.
An event names its component, and its fields keep the order in which they are shown.
-/

namespace NodeBridge

namespace Event

/-- The levels are ordered from the most detailed to the most severe. -/
inductive Level where
  | trace
  | debug
  | info
  | warn
  | error
  deriving DecidableEq

def Level.name : Level → String
  | .trace => "TRACE"
  | .debug => "DEBUG"
  | .info => "INFO"
  | .warn => "WARN"
  | .error => "ERROR"

/-- A higher rank is more severe. -/
def Level.rank : Level → Nat
  | .trace => 1
  | .debug => 2
  | .info => 3
  | .warn => 4
  | .error => 5

/-- Each part of the program reports under its own path. -/
inductive Component where
  | daemon
  | bridge
  | client
  | shutdown
  | signals
  | metrics
  | dispatcher
  | heads
  | observer
  | staking
  deriving DecidableEq

/-- The path of a component begins with the path of the part that holds it. -/
def Component.path : Component → String
  | .daemon => "axis_bridge"
  | .bridge => "axis_bridge::bridge"
  | .client => "axis_bridge::bridge::client"
  | .shutdown => "axis_bridge::lifecycle::shutdown"
  | .signals => "axis_bridge::lifecycle::signals"
  | .metrics => "axis_bridge::observability::metrics"
  | .dispatcher => "axis_bridge::observer::dispatcher"
  | .heads => "axis_bridge::observer::heads"
  | .observer => "axis_bridge::observer::manager"
  | .staking => "axis_bridge::sfc::repository"

/-- A value is shown as it is, quoted in plain logs, or a number. -/
inductive Value where
  | shown (text : String)
  | quoted (text : String)
  | number (value : Nat)
  deriving DecidableEq

end Event

structure Event where
  level : Event.Level
  component : Event.Component
  message : String
  fields : List (String × Event.Value) := []
  deriving DecidableEq

end NodeBridge
