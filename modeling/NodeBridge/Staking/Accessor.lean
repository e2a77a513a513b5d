import NodeBridge.Staking.Inquiry

/-
This file reads staking and lending records from the contracts.
A value that does not fit its field is refused and never cut.
-/

namespace NodeBridge.Staking

open Reading

/-- Stake can be locked from this epoch on. -/
def firstLockEpoch : UInt64 := 1600

def event (level : Event.Level) (message : String)
    (fields : List (String × Event.Value)) : Event :=
  ⟨level, .staking, message, fields⟩

def critical : String × Event.Value := ("severity", .quoted "critical")

def delegation (delegator : Address) (validator : Word) : List (String × Event.Value) :=
  [("delegator", .shown delegator.checksum), ("validator", .shown validator.decimal)]

def cause (failure : Failure) : String × Event.Value := ("error", .shown failure.message)

/-- A word has to fit into 64 bits. -/
def narrow (name : String) (value : Word) : Except Failure UInt64 :=
  if value.toNat < UInt64.size then .ok (UInt64.ofNat value.toNat)
  else .error (.malformed (.tooLarge name value))

def version : Reading UInt64 := do
  let (major, minor, patch) ← reporting
    (fun failure => event .error "Failed to get the SFC version" [critical, cause failure])
    (query .version)
  return packVersion major minor patch

def parameter (parameter : Parameter) : Reading Word :=
  reporting
    (fun failure => event .error "SFC call failed"
      [("call", .quoted parameter.method), cause failure])
    (query (.parameter parameter))

def smallParameter (which : Parameter) : Reading UInt64 := do
  let value ← parameter which
  liftM (narrow which.method value)

def currentEpoch : Reading UInt64 := smallParameter .currentEpoch

def currentSealedEpoch : Reading UInt64 := smallParameter .currentSealedEpoch

def epoch (id : UInt64) : Reading Epoch := do
  let snapshot ← reporting
    (fun failure => event .error "Failed to extract epoch information"
      [("epoch", .number id.toNat), cause failure])
    (query (.snapshot (BitVec.ofNat 256 id.toNat)))
  let endTime ← liftM (narrow "epoch end time" snapshot.endTime)
  return {
    id, endTime
    epochFee := snapshot.epochFee
    totalBaseRewardWeight := snapshot.totalBaseRewardWeight
    totalTxRewardWeight := snapshot.totalTxRewardWeight
    baseRewardPerSecond := snapshot.baseRewardPerSecond
    stakeTotalAmount := snapshot.totalStake
    totalSupply := snapshot.totalSupply }

/-- Rewards can always be claimed. -/
def rewardsAllowed : Reading Bool := do
  report (event .debug "Rewards lock always open" [])
  return true

def lockingAllowed : Reading Bool := do
  let sealedEpoch ← currentSealedEpoch
  return firstLockEpoch ≤ sealedEpoch

def totalStaked : Reading Word := parameter .totalStake

def minimumValidatorStake : Reading Word := parameter .minimumSelfStake

def maximumDelegatedRatio : Reading Word := parameter .maximumDelegatedRatio

def minimumLockupDuration : Reading Word := parameter .minimumLockupDuration

def maximumLockupDuration : Reading Word := parameter .maximumLockupDuration

def withdrawalPeriodEpochs : Reading Word := parameter .withdrawalPeriodEpochs

def withdrawalPeriodTime : Reading Word := parameter .withdrawalPeriodTime

def amountStaked (delegator : Address) (validator : Word) : Reading Word := do
  report (event .debug "Verifying amount staked" (delegation delegator validator))
  query (.stake .total delegator validator)

def amountLocked (delegator : Address) (validator : Word) : Reading Word :=
  query (.stake .locked delegator validator)

def amountUnlocked (delegator : Address) (validator : Word) : Reading Word :=
  query (.stake .unlocked delegator validator)

/-- The penalty comes as exactly one word. -/
def unlockPenalty (delegator : Address) (validator amount : Word) : Reading Word := do
  let data ← reporting
    (fun failure => event .error "Unlock penalty not available"
      (delegation delegator validator ++ [("amount", .shown amount.decimal), cause failure]))
    (query (.unlockPenalty delegator validator amount))
  if data.length ≠ 32 then
    report (event .error "Unlock penalty response not valid"
      (delegation delegator validator ++ [("received", .number data.length)]))
    throw (.malformed (.penaltyLength data.length))
  return Word.ofBytes data

/-- Rewards that cannot be read are reported as zero. -/
def pendingRewards (delegator : Address) (validator : Word) : Reading PendingRewards :=
  tryCatch
    (do
      let amount ← query (.pendingRewards delegator validator)
      return ⟨delegator, validator, amount⟩)
    fun failure => do
      report (event .error "Can not calculate pending rewards"
        (critical :: delegation delegator validator ++ [cause failure]))
      return ⟨delegator, validator, 0⟩

def Lockup.narrow (lockup : Lockup) : Except Failure DelegationLock := do
  let lockedFromEpoch ← Staking.narrow "lock start epoch" lockup.fromEpoch
  let lockedUntil ← Staking.narrow "lock end time" lockup.endTime
  let duration ← Staking.narrow "lock duration" lockup.duration
  return ⟨lockup.lockedStake, lockedFromEpoch, lockedUntil, duration⟩

def delegationLock (delegator : Address) (validator : Word) : Reading DelegationLock := do
  let lockup ← reporting
    (fun failure => event .error "Delegation lock query failed"
      (delegation delegator validator ++ [cause failure]))
    (query (.lockup delegator validator))
  reporting
    (fun failure => event .error "Delegation lock details not available"
      (delegation delegator validator ++ [cause failure]))
    (liftM lockup.narrow)

def outstandingToken (delegator : Address) (validator : Word) : Reading Word := do
  report (event .debug "Checking outstanding sAXIS" (delegation delegator validator))
  reporting
    (fun failure => event .error "Failed to get outstanding sAXIS"
      (critical :: delegation delegator validator ++ [cause failure]))
    (query (.outstandingToken delegator validator))

def withdrawalAllowed (delegator : Address) (validator : Word) : Reading Bool := do
  report (event .debug "Checking SFC tokenizer lock" (delegation delegator validator))
  reporting
    (fun failure => event .error "Failed to get SFC tokenizer lock status"
      (critical :: delegation delegator validator ++ [cause failure]))
    (query (.withdrawalAllowed delegator validator))

def defiParameter (parameter : DefiParameter) : Reading Word :=
  reporting
    (fun failure => event .error "Can not pull DeFi config value"
      [("call", .quoted parameter.method), cause failure])
    (query (.defi parameter))

/-- The settings are read one by one, and the first failure ends the reading. -/
def defiSettings (addresses : DefiAddresses) : Reading DefiSettings := do
  let some minter := addresses.minter | throw (.notConfigured "fMint minter")
  let mintFee ← defiParameter .mintFee
  let minimumCollateralRatio ← defiParameter .minimumCollateralRatio
  let rewardCollateralRatio ← defiParameter .rewardCollateralRatio
  let correction ← defiParameter .feeDigitsCorrection
  let factor ← liftM (narrow "fee digits correction" correction)
  return {
    mintContract := minter
    mintAddressProvider := addresses.addressProvider
    mintTokenRegistry := addresses.tokenRegistry
    mintRewardDistribution := addresses.rewardDistribution
    mintCollateralPool := addresses.collateralPool
    mintDebtPool := addresses.debtPool
    priceOracleAggregate := addresses.priceOracleAggregate
    mintFee, minimumCollateralRatio, rewardCollateralRatio
    decimals := Int32.ofNat (decimalPlaces factor.toNat) }

end NodeBridge.Staking
