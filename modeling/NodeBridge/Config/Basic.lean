/-
This file defines the configuration of the bridge, one structure for each section.
The defaults are those of a bridge beside a local node.
-/

namespace NodeBridge

/-- The node is reached at a URL or at the path of a local socket, and calls have a limit in seconds. -/
structure Config.Rpc where
  url : String := "ws://127.0.0.1:18546"
  callTimeout : UInt64 := 10
  deriving DecidableEq

/-- Delays and timeouts are in seconds, and a feed of capacity zero has no bound. -/
structure Config.Observer where
  enabled : Bool := true
  topic : String := "newHeads"
  retryDelay : UInt64 := 30
  openTimeout : UInt64 := 10
  capacity : UInt64 := 10000
  deriving DecidableEq

/-- Only the staking contract has to be set. -/
structure Config.Staking where
  contract : String := "0xFC00FACE00000000000000000000000000000000"
  tokenizer : String := ""
  deriving DecidableEq

/-- An empty text means that the contract is not set. -/
structure Config.Defi where
  addressProvider : String := ""
  minter : String := ""
  tokenRegistry : String := ""
  rewardDistribution : String := ""
  collateralPool : String := ""
  debtPool : String := ""
  priceOracleAggregate : String := ""
  deriving DecidableEq

structure Config.Observability where
  logLevel : String := "info"
  jsonLogs : Bool := false
  metricsEnabled : Bool := false
  metricsAddress : String := "127.0.0.1:9090"
  deriving DecidableEq

/-- The timeout of the shutdown is in seconds. -/
structure Config.Lifecycle where
  shutdownTimeout : UInt64 := 10
  deriving DecidableEq

structure Config where
  rpc : Config.Rpc := {}
  observer : Config.Observer := {}
  staking : Config.Staking := {}
  defi : Config.Defi := {}
  observability : Config.Observability := {}
  lifecycle : Config.Lifecycle := {}
  deriving DecidableEq

end NodeBridge
