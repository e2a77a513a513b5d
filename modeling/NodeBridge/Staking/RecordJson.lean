import NodeBridge.Entries
import NodeBridge.Json.Basic
import NodeBridge.Staking.Record

/-
This file reads and writes the staking records as JSON.
Reading accepts several spellings of a value, and writing has one for each.
-/

namespace NodeBridge.Staking

/-- A list of entries has to have exactly one entry for each field. -/
def recordEntries? (width : Nat) : Json → Option (Entries Json)
  | .object members => some (.named members)
  | .list items => if items.length = width then some (.ordered items) else none
  | _ => none

/-- A word is a small number or a text in one of four bases. -/
def wordOfJson? : Json → Option Word
  | .integer value => if 0 ≤ value then some (BitVec.ofNat 256 value.toNat) else none
  | .text source => Word.ofText? source
  | _ => none

/-- An address is a text or its twenty bytes. -/
def addressOfJson? : Json → Option Address
  | .text source => Address.ofText? source
  | .list items => do
      let bytes ← items.mapM Json.byte?
      if bytes.length = 20 then some (Address.ofBytes bytes) else none
  | _ => none

/-- An address that is not set is null. -/
def optionalAddressOfJson? : Json → Option (Option Address)
  | .null => some none
  | value => (addressOfJson? value).map some

def smallOfJson? : Json → Option Int32
  | .integer value =>
      if Int32.minValue.toInt ≤ value ∧ value ≤ Int32.maxValue.toInt then some (Int32.ofInt value)
      else none
  | _ => none

def wordToJson (word : Word) : Json := .text word.hex

def addressToJson (address : Address) : Json := .text address.hex

def optionalAddressToJson : Option Address → Json
  | none => .null
  | some address => addressToJson address

def Epoch.toJson (epoch : Epoch) : Json := .object [
  ("id", .ofCount epoch.id),
  ("endTime", .ofCount epoch.endTime),
  ("epochFee", wordToJson epoch.epochFee),
  ("totalBaseRewardWeight", wordToJson epoch.totalBaseRewardWeight),
  ("totalTxRewardWeight", wordToJson epoch.totalTxRewardWeight),
  ("baseRewardPerSecond", wordToJson epoch.baseRewardPerSecond),
  ("stakeTotalAmount", wordToJson epoch.stakeTotalAmount),
  ("totalSupply", wordToJson epoch.totalSupply)]

def Epoch.ofJson? (value : Json) : Option Epoch := do
  let entries ← recordEntries? 8 value
  let id ← entries.require 0 "id" Json.count?
  let endTime ← entries.require 1 "endTime" Json.count?
  let epochFee ← entries.require 2 "epochFee" wordOfJson?
  let totalBaseRewardWeight ← entries.require 3 "totalBaseRewardWeight" wordOfJson?
  let totalTxRewardWeight ← entries.require 4 "totalTxRewardWeight" wordOfJson?
  let baseRewardPerSecond ← entries.require 5 "baseRewardPerSecond" wordOfJson?
  let stakeTotalAmount ← entries.require 6 "stakeTotalAmount" wordOfJson?
  let totalSupply ← entries.require 7 "totalSupply" wordOfJson?
  return ⟨id, endTime, epochFee, totalBaseRewardWeight, totalTxRewardWeight, baseRewardPerSecond,
    stakeTotalAmount, totalSupply⟩

def PendingRewards.toJson (rewards : PendingRewards) : Json := .object [
  ("address", addressToJson rewards.address),
  ("staker", wordToJson rewards.staker),
  ("amount", wordToJson rewards.amount)]

def PendingRewards.ofJson? (value : Json) : Option PendingRewards := do
  let entries ← recordEntries? 3 value
  let address ← entries.require 0 "address" addressOfJson?
  let staker ← entries.require 1 "staker" wordOfJson?
  let amount ← entries.require 2 "amount" wordOfJson?
  return ⟨address, staker, amount⟩

def DelegationLock.toJson (lock : DelegationLock) : Json := .object [
  ("lockedAmount", wordToJson lock.lockedAmount),
  ("lockedFromEpoch", .ofCount lock.lockedFromEpoch),
  ("lockedUntil", .ofCount lock.lockedUntil),
  ("duration", .ofCount lock.duration)]

def DelegationLock.ofJson? (value : Json) : Option DelegationLock := do
  let entries ← recordEntries? 4 value
  let lockedAmount ← entries.require 0 "lockedAmount" wordOfJson?
  let lockedFromEpoch ← entries.require 1 "lockedFromEpoch" Json.count?
  let lockedUntil ← entries.require 2 "lockedUntil" Json.count?
  let duration ← entries.require 3 "duration" Json.count?
  return ⟨lockedAmount, lockedFromEpoch, lockedUntil, duration⟩

def DefiAddresses.toJson (addresses : DefiAddresses) : Json := .object [
  ("addressProvider", optionalAddressToJson addresses.addressProvider),
  ("minter", optionalAddressToJson addresses.minter),
  ("tokenRegistry", optionalAddressToJson addresses.tokenRegistry),
  ("rewardDistribution", optionalAddressToJson addresses.rewardDistribution),
  ("collateralPool", optionalAddressToJson addresses.collateralPool),
  ("debtPool", optionalAddressToJson addresses.debtPool),
  ("priceOracleAggregate", optionalAddressToJson addresses.priceOracleAggregate)]

def DefiAddresses.ofJson? (value : Json) : Option DefiAddresses := do
  let entries ← recordEntries? 7 value
  let addressProvider ← entries.read 0 "addressProvider" optionalAddressOfJson? none
  let minter ← entries.read 1 "minter" optionalAddressOfJson? none
  let tokenRegistry ← entries.read 2 "tokenRegistry" optionalAddressOfJson? none
  let rewardDistribution ← entries.read 3 "rewardDistribution" optionalAddressOfJson? none
  let collateralPool ← entries.read 4 "collateralPool" optionalAddressOfJson? none
  let debtPool ← entries.read 5 "debtPool" optionalAddressOfJson? none
  let priceOracleAggregate ← entries.read 6 "priceOracleAggregate" optionalAddressOfJson? none
  return ⟨addressProvider, minter, tokenRegistry, rewardDistribution, collateralPool, debtPool,
    priceOracleAggregate⟩

def DefiSettings.toJson (settings : DefiSettings) : Json := .object [
  ("fmintContract", addressToJson settings.mintContract),
  ("fmintAddressProvider", optionalAddressToJson settings.mintAddressProvider),
  ("fmintTokenRegistry", optionalAddressToJson settings.mintTokenRegistry),
  ("fmintRewardDistribution", optionalAddressToJson settings.mintRewardDistribution),
  ("fmintCollateralPool", optionalAddressToJson settings.mintCollateralPool),
  ("fmintDebtPool", optionalAddressToJson settings.mintDebtPool),
  ("priceOracleAggregate", optionalAddressToJson settings.priceOracleAggregate),
  ("mintFee4", wordToJson settings.mintFee),
  ("minCollateralRatio4", wordToJson settings.minimumCollateralRatio),
  ("rewardCollateralRatio4", wordToJson settings.rewardCollateralRatio),
  ("decimals", .integer settings.decimals.toInt)]

def DefiSettings.ofJson? (value : Json) : Option DefiSettings := do
  let entries ← recordEntries? 11 value
  let mintContract ← entries.require 0 "fmintContract" addressOfJson?
  let mintAddressProvider ← entries.read 1 "fmintAddressProvider" optionalAddressOfJson? none
  let mintTokenRegistry ← entries.read 2 "fmintTokenRegistry" optionalAddressOfJson? none
  let mintRewardDistribution ←
    entries.read 3 "fmintRewardDistribution" optionalAddressOfJson? none
  let mintCollateralPool ← entries.read 4 "fmintCollateralPool" optionalAddressOfJson? none
  let mintDebtPool ← entries.read 5 "fmintDebtPool" optionalAddressOfJson? none
  let priceOracleAggregate ← entries.read 6 "priceOracleAggregate" optionalAddressOfJson? none
  let mintFee ← entries.require 7 "mintFee4" wordOfJson?
  let minimumCollateralRatio ← entries.require 8 "minCollateralRatio4" wordOfJson?
  let rewardCollateralRatio ← entries.require 9 "rewardCollateralRatio4" wordOfJson?
  let decimals ← entries.require 10 "decimals" smallOfJson?
  return ⟨mintContract, mintAddressProvider, mintTokenRegistry, mintRewardDistribution,
    mintCollateralPool, mintDebtPool, priceOracleAggregate, mintFee, minimumCollateralRatio,
    rewardCollateralRatio, decimals⟩

end NodeBridge.Staking
