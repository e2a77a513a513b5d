import NodeBridge.Staking.Accessor
import NodeBridge.Staking.Encoding

/-
This file lists the readings that the bridge offers, each with the type of its value, the contract
that it belongs to and the queries that it asks.
-/

namespace NodeBridge.Staking

/-- These are the readings that the bridge offers. -/
inductive Accessor where
  | version
  | currentEpoch
  | currentSealedEpoch
  | epoch (id : UInt64)
  | rewardsAllowed
  | lockingAllowed
  | totalStaked
  | minimumValidatorStake
  | maximumDelegatedRatio
  | minimumLockupDuration
  | maximumLockupDuration
  | withdrawalPeriodEpochs
  | withdrawalPeriodTime
  | amountStaked (delegator : Address) (validator : Word)
  | amountLocked (delegator : Address) (validator : Word)
  | amountUnlocked (delegator : Address) (validator : Word)
  | unlockPenalty (delegator : Address) (validator amount : Word)
  | pendingRewards (delegator : Address) (validator : Word)
  | delegationLock (delegator : Address) (validator : Word)
  | outstandingToken (delegator : Address) (validator : Word)
  | withdrawalAllowed (delegator : Address) (validator : Word)
  | defiSettings

namespace Accessor

/-- Most values are a word, and some are a record. -/
@[reducible]
def Result : Accessor → Type
  | version => UInt64
  | currentEpoch => UInt64
  | currentSealedEpoch => UInt64
  | epoch _ => Epoch
  | rewardsAllowed => Bool
  | lockingAllowed => Bool
  | pendingRewards _ _ => PendingRewards
  | delegationLock _ _ => DelegationLock
  | withdrawalAllowed _ _ => Bool
  | defiSettings => DefiSettings
  | totalStaked => Word
  | minimumValidatorStake => Word
  | maximumDelegatedRatio => Word
  | minimumLockupDuration => Word
  | maximumLockupDuration => Word
  | withdrawalPeriodEpochs => Word
  | withdrawalPeriodTime => Word
  | amountStaked _ _ => Word
  | amountLocked _ _ => Word
  | amountUnlocked _ _ => Word
  | unlockPenalty _ _ _ => Word
  | outstandingToken _ _ => Word

/-- The settings of the lending market need its addresses, and nothing else does. -/
def reading (addresses : DefiAddresses) : (accessor : Accessor) → Reading accessor.Result
  | version => Staking.version
  | currentEpoch => Staking.currentEpoch
  | currentSealedEpoch => Staking.currentSealedEpoch
  | epoch id => Staking.epoch id
  | rewardsAllowed => Staking.rewardsAllowed
  | lockingAllowed => Staking.lockingAllowed
  | totalStaked => Staking.totalStaked
  | minimumValidatorStake => Staking.minimumValidatorStake
  | maximumDelegatedRatio => Staking.maximumDelegatedRatio
  | minimumLockupDuration => Staking.minimumLockupDuration
  | maximumLockupDuration => Staking.maximumLockupDuration
  | withdrawalPeriodEpochs => Staking.withdrawalPeriodEpochs
  | withdrawalPeriodTime => Staking.withdrawalPeriodTime
  | amountStaked delegator validator => Staking.amountStaked delegator validator
  | amountLocked delegator validator => Staking.amountLocked delegator validator
  | amountUnlocked delegator validator => Staking.amountUnlocked delegator validator
  | unlockPenalty delegator validator amount => Staking.unlockPenalty delegator validator amount
  | pendingRewards delegator validator => Staking.pendingRewards delegator validator
  | delegationLock delegator validator => Staking.delegationLock delegator validator
  | outstandingToken delegator validator => Staking.outstandingToken delegator validator
  | withdrawalAllowed delegator validator => Staking.withdrawalAllowed delegator validator
  | defiSettings => Staking.defiSettings addresses

/-- A reading belongs to one contract, and most readings belong to the staking contract. -/
def contract : Accessor → ContractRole
  | outstandingToken _ _ => .tokenizer
  | withdrawalAllowed _ _ => .tokenizer
  | defiSettings => .minter
  | _ => .staking

/-- These queries are asked, in this order, as long as they are answered. -/
def queries : Accessor → List Query
  | version => [.version]
  | currentEpoch => [.parameter .currentEpoch]
  | currentSealedEpoch => [.parameter .currentSealedEpoch]
  | epoch id => [.snapshot (BitVec.ofNat 256 id.toNat)]
  | rewardsAllowed => []
  | lockingAllowed => [.parameter .currentSealedEpoch]
  | totalStaked => [.parameter .totalStake]
  | minimumValidatorStake => [.parameter .minimumSelfStake]
  | maximumDelegatedRatio => [.parameter .maximumDelegatedRatio]
  | minimumLockupDuration => [.parameter .minimumLockupDuration]
  | maximumLockupDuration => [.parameter .maximumLockupDuration]
  | withdrawalPeriodEpochs => [.parameter .withdrawalPeriodEpochs]
  | withdrawalPeriodTime => [.parameter .withdrawalPeriodTime]
  | amountStaked delegator validator => [.stake .total delegator validator]
  | amountLocked delegator validator => [.stake .locked delegator validator]
  | amountUnlocked delegator validator => [.stake .unlocked delegator validator]
  | unlockPenalty delegator validator amount => [.unlockPenalty delegator validator amount]
  | pendingRewards delegator validator => [.pendingRewards delegator validator]
  | delegationLock delegator validator => [.lockup delegator validator]
  | outstandingToken delegator validator => [.outstandingToken delegator validator]
  | withdrawalAllowed delegator validator => [.withdrawalAllowed delegator validator]
  | defiSettings =>
      [.defi .mintFee, .defi .minimumCollateralRatio, .defi .rewardCollateralRatio,
        .defi .feeDigitsCorrection]

end Accessor

end NodeBridge.Staking
