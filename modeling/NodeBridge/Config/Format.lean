import NodeBridge.Config.Basic
import NodeBridge.Entries

/-
This file reads a configuration from the entries of any format.
A missing entry leaves the default, and an entry of the wrong kind spoils the whole.
-/

namespace NodeBridge.Config

/-- A format says which of its values are texts, flags, counts and sections with some count of fields. -/
structure Format (Value : Type) where
  text? : Value → Option String
  flag? : Value → Option Bool
  count? : Value → Option UInt64
  entries? : Nat → Value → Option (Entries Value)

namespace Format

variable {Value : Type} (format : Format Value)

def rpc? (value : Value) : Option Rpc := do
  let entries ← format.entries? 2 value
  let standard : Rpc := {}
  let url ← entries.read 0 "url" format.text? standard.url
  let callTimeout ← entries.read 1 "call_timeout_secs" format.count? standard.callTimeout
  return ⟨url, callTimeout⟩

def observer? (value : Value) : Option Observer := do
  let entries ← format.entries? 5 value
  let standard : Observer := {}
  let enabled ← entries.read 0 "enabled" format.flag? standard.enabled
  let topic ← entries.read 1 "topic" format.text? standard.topic
  let retryDelay ← entries.read 2 "retry_delay_secs" format.count? standard.retryDelay
  let openTimeout ← entries.read 3 "open_timeout_secs" format.count? standard.openTimeout
  let capacity ← entries.read 4 "channel_capacity" format.count? standard.capacity
  return ⟨enabled, topic, retryDelay, openTimeout, capacity⟩

def staking? (value : Value) : Option Staking := do
  let entries ← format.entries? 2 value
  let standard : Staking := {}
  let contract ← entries.read 0 "contract" format.text? standard.contract
  let tokenizer ← entries.read 1 "tokenizer" format.text? standard.tokenizer
  return ⟨contract, tokenizer⟩

def defi? (value : Value) : Option Defi := do
  let entries ← format.entries? 7 value
  let standard : Defi := {}
  let addressProvider ← entries.read 0 "address_provider" format.text? standard.addressProvider
  let minter ← entries.read 1 "minter" format.text? standard.minter
  let tokenRegistry ← entries.read 2 "token_registry" format.text? standard.tokenRegistry
  let rewardDistribution ←
    entries.read 3 "reward_distribution" format.text? standard.rewardDistribution
  let collateralPool ← entries.read 4 "collateral_pool" format.text? standard.collateralPool
  let debtPool ← entries.read 5 "debt_pool" format.text? standard.debtPool
  let priceOracleAggregate ←
    entries.read 6 "price_oracle_aggregate" format.text? standard.priceOracleAggregate
  return ⟨addressProvider, minter, tokenRegistry, rewardDistribution, collateralPool, debtPool,
    priceOracleAggregate⟩

def observability? (value : Value) : Option Observability := do
  let entries ← format.entries? 4 value
  let standard : Observability := {}
  let logLevel ← entries.read 0 "log_level" format.text? standard.logLevel
  let jsonLogs ← entries.read 1 "json_logs" format.flag? standard.jsonLogs
  let metricsEnabled ← entries.read 2 "metrics_enabled" format.flag? standard.metricsEnabled
  let metricsAddress ← entries.read 3 "metrics_address" format.text? standard.metricsAddress
  return ⟨logLevel, jsonLogs, metricsEnabled, metricsAddress⟩

def lifecycle? (value : Value) : Option Lifecycle := do
  let entries ← format.entries? 1 value
  let standard : Lifecycle := {}
  let shutdownTimeout ←
    entries.read 0 "shutdown_timeout_secs" format.count? standard.shutdownTimeout
  return ⟨shutdownTimeout⟩

/-- A configuration is a section of sections. -/
def config? (value : Value) : Option Config := do
  let entries ← format.entries? 6 value
  let rpc ← entries.read 0 "rpc" format.rpc? {}
  let observer ← entries.read 1 "observer" format.observer? {}
  let staking ← entries.read 2 "sfc" format.staking? {}
  let defi ← entries.read 3 "defi" format.defi? {}
  let observability ← entries.read 4 "observability" format.observability? {}
  let lifecycle ← entries.read 5 "lifecycle" format.lifecycle? {}
  return ⟨rpc, observer, staking, defi, observability, lifecycle⟩

end Format

end NodeBridge.Config
