import NodeBridge.Config.Format
import NodeBridge.Json.Basic

/-
This file reads and writes configurations as JSON.
Writing shows every field, and reading what was written gives the configuration back.
-/

namespace NodeBridge.Config

/-- A list of entries may be shorter than the section but not longer. -/
def jsonFormat : Format Json where
  text? := Json.text?
  flag? := Json.boolean?
  count? := Json.count?
  entries? width
    | .object members => some (.named members)
    | .list items => if items.length ≤ width then some (.ordered items) else none
    | _ => none

def ofJson? (value : Json) : Option Config := jsonFormat.config? value

def Rpc.toJson (rpc : Rpc) : Json := .object [
  ("url", .text rpc.url),
  ("call_timeout_secs", .ofCount rpc.callTimeout)]

def Observer.toJson (observer : Observer) : Json := .object [
  ("enabled", .boolean observer.enabled),
  ("topic", .text observer.topic),
  ("retry_delay_secs", .ofCount observer.retryDelay),
  ("open_timeout_secs", .ofCount observer.openTimeout),
  ("channel_capacity", .ofCount observer.capacity)]

def Staking.toJson (staking : Staking) : Json := .object [
  ("contract", .text staking.contract),
  ("tokenizer", .text staking.tokenizer)]

def Defi.toJson (defi : Defi) : Json := .object [
  ("address_provider", .text defi.addressProvider),
  ("minter", .text defi.minter),
  ("token_registry", .text defi.tokenRegistry),
  ("reward_distribution", .text defi.rewardDistribution),
  ("collateral_pool", .text defi.collateralPool),
  ("debt_pool", .text defi.debtPool),
  ("price_oracle_aggregate", .text defi.priceOracleAggregate)]

def Observability.toJson (observability : Observability) : Json := .object [
  ("log_level", .text observability.logLevel),
  ("json_logs", .boolean observability.jsonLogs),
  ("metrics_enabled", .boolean observability.metricsEnabled),
  ("metrics_address", .text observability.metricsAddress)]

def Lifecycle.toJson (lifecycle : Lifecycle) : Json := .object [
  ("shutdown_timeout_secs", .ofCount lifecycle.shutdownTimeout)]

/-- The written form has all sections with all fields. -/
def toJson (config : Config) : Json := .object [
  ("rpc", config.rpc.toJson),
  ("observer", config.observer.toJson),
  ("sfc", config.staking.toJson),
  ("defi", config.defi.toJson),
  ("observability", config.observability.toJson),
  ("lifecycle", config.lifecycle.toJson)]

end NodeBridge.Config
