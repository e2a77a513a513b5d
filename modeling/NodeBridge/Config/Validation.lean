import NodeBridge.Address
import NodeBridge.Config.Basic
import NodeBridge.Feed.Capacity
import NodeBridge.Text.Blank
import NodeBridge.Url.Basic

/-
This file decides which configurations are fit to run.
Sixteen settings are checked one by one, and every setting that fails is reported.
-/

namespace NodeBridge.Config

/-- A local socket path or a WebSocket URL can carry subscriptions. -/
def isPubsubEndpoint (url : String) : Bool :=
  if url.endsWith ".ipc" then true
  else
    match Url.parse? url with
    | some parsed => parsed.scheme = .ws || parsed.scheme = .wss
    | none => false

/-- These settings hold the address of a contract. -/
inductive Contract where
  | staking
  | tokenizer
  | addressProvider
  | minter
  | tokenRegistry
  | rewardDistribution
  | collateralPool
  | debtPool
  | priceOracleAggregate
  deriving DecidableEq

namespace Contract

def all : List Contract :=
  [staking, tokenizer, addressProvider, minter, tokenRegistry, rewardDistribution, collateralPool,
   debtPool, priceOracleAggregate]

/-- The name of a setting is its section and its field. -/
def name : Contract → String
  | staking => "sfc.contract"
  | tokenizer => "sfc.tokenizer"
  | addressProvider => "defi.address_provider"
  | minter => "defi.minter"
  | tokenRegistry => "defi.token_registry"
  | rewardDistribution => "defi.reward_distribution"
  | collateralPool => "defi.collateral_pool"
  | debtPool => "defi.debt_pool"
  | priceOracleAggregate => "defi.price_oracle_aggregate"

def value (config : Config) : Contract → String
  | staking => config.staking.contract
  | tokenizer => config.staking.tokenizer
  | addressProvider => config.defi.addressProvider
  | minter => config.defi.minter
  | tokenRegistry => config.defi.tokenRegistry
  | rewardDistribution => config.defi.rewardDistribution
  | collateralPool => config.defi.collateralPool
  | debtPool => config.defi.debtPool
  | priceOracleAggregate => config.defi.priceOracleAggregate

/-- All contracts but the staking contract may stay empty. -/
def isRequired (contract : Contract) : Bool := contract = staking

end Contract

/-- A problem names its setting and shows the value that is wrong. -/
inductive Problem where
  | unsupportedEndpoint (value : String)
  | invalidAddress (name value : String)
  | zero (name : String)
  | emptyTopic
  | capacityTooLarge (value maximum : Nat)
  | unknownLogLevel (value : String)
  deriving DecidableEq

def Problem.message : Problem → String
  | .unsupportedEndpoint value =>
      "rpc.url '" ++ value ++ "' is not a ws://, wss:// or IPC endpoint"
  | .invalidAddress name value => name ++ " '" ++ value ++ "' is not a valid address"
  | .zero name => name ++ " must be greater than zero"
  | .emptyTopic => "observer.topic must not be empty"
  | .capacityTooLarge value maximum =>
      "observer.channel_capacity " ++ toString value ++ " exceeds the maximum of " ++
        toString maximum
  | .unknownLogLevel value => "unknown log level '" ++ value ++ "'"

/-- Each of these settings is checked on its own. -/
inductive Setting where
  | endpoint
  | callTimeout
  | retryDelay
  | openTimeout
  | topic
  | capacity
  | contract (which : Contract)
  | logLevel
  deriving DecidableEq

namespace Setting

/-- Problems are reported in this order. -/
def all : List Setting :=
  [endpoint, callTimeout, retryDelay, openTimeout, topic, capacity] ++
    Contract.all.map contract ++ [logLevel]

def zero? (name : String) (value : UInt64) : Option Problem :=
  if value = 0 then some (.zero name) else none

/-- An empty text is fine unless the contract is required. -/
def address? (contract : Contract) (value : String) : Option Problem :=
  if value.isEmpty && !contract.isRequired then none
  else
    match Address.parse value with
    | .ok _ => none
    | .error _ => some (.invalidAddress contract.name value)

/-- Only these levels can be configured, in any case of letters. -/
def logLevels : List String := ["trace", "debug", "info", "warn", "error"]

def isLogLevel (level : String) : Bool := logLevels.contains level.toLower

/-- A setting is either fit or has one problem. -/
def problem? (config : Config) : Setting → Option Problem
  | endpoint =>
      if isPubsubEndpoint config.rpc.url then none
      else some (.unsupportedEndpoint config.rpc.url)
  | callTimeout => zero? "rpc.call_timeout_secs" config.rpc.callTimeout
  | retryDelay => zero? "observer.retry_delay_secs" config.observer.retryDelay
  | openTimeout => zero? "observer.open_timeout_secs" config.observer.openTimeout
  | topic => if Text.allBlank config.observer.topic then some .emptyTopic else none
  | capacity =>
      let value := config.observer.capacity.toNat
      if Feed.maximumCapacity < value then some (.capacityTooLarge value Feed.maximumCapacity)
      else none
  | contract which => address? which (which.value config)
  | logLevel =>
      if isLogLevel config.observability.logLevel then none
      else some (.unknownLogLevel config.observability.logLevel)

end Setting

/-- This function collects the problems of all settings. -/
def problems (config : Config) : List Problem := Setting.all.filterMap (Setting.problem? config)

end NodeBridge.Config
