import NodeBridge.Staking.Record

/-
This file lists the contract methods that the bridge reads.
A query fixes its method, its arguments and the kind of its answer.
-/

namespace NodeBridge.Staking

/-- These values of the staking contract need no argument. -/
inductive Parameter where
  | currentEpoch
  | currentSealedEpoch
  | totalStake
  | minimumSelfStake
  | maximumDelegatedRatio
  | minimumLockupDuration
  | maximumLockupDuration
  | withdrawalPeriodEpochs
  | withdrawalPeriodTime
  deriving DecidableEq

def Parameter.method : Parameter → String
  | .currentEpoch => "currentEpoch"
  | .currentSealedEpoch => "currentSealedEpoch"
  | .totalStake => "totalStake"
  | .minimumSelfStake => "minSelfStake"
  | .maximumDelegatedRatio => "maxDelegatedRatio"
  | .minimumLockupDuration => "minLockupDuration"
  | .maximumLockupDuration => "maxLockupDuration"
  | .withdrawalPeriodEpochs => "withdrawalPeriodEpochs"
  | .withdrawalPeriodTime => "withdrawalPeriodTime"

/-- A delegation has a locked part and an unlocked part. -/
inductive StakePart where
  | total
  | locked
  | unlocked
  deriving DecidableEq

def StakePart.method : StakePart → String
  | .total => "getStake"
  | .locked => "getLockedStake"
  | .unlocked => "getUnlockedStake"

/-- These values of the minter need no argument. -/
inductive DefiParameter where
  | mintFee
  | minimumCollateralRatio
  | rewardCollateralRatio
  | feeDigitsCorrection
  deriving DecidableEq

def DefiParameter.method : DefiParameter → String
  | .mintFee => "getFMintFee4dec"
  | .minimumCollateralRatio => "getCollateralLowestDebtRatio4dec"
  | .rewardCollateralRatio => "getRewardEligibilityRatio4dec"
  | .feeDigitsCorrection => "fMintFeeDigitsCorrection"

inductive Query where
  | version
  | parameter (parameter : Parameter)
  | snapshot (epoch : Word)
  | stake (part : StakePart) (delegator : Address) (validator : Word)
  | pendingRewards (delegator : Address) (validator : Word)
  | lockup (delegator : Address) (validator : Word)
  | unlockPenalty (delegator : Address) (validator amount : Word)
  | outstandingToken (delegator : Address) (validator : Word)
  | withdrawalAllowed (delegator : Address) (validator : Word)
  | defi (parameter : DefiParameter)
  deriving DecidableEq

/-- An argument fills one word of the call. -/
inductive Argument where
  | address (value : Address)
  | word (value : Word)
  deriving DecidableEq

def Argument.asWord : Argument → Word
  | .address value => value.word
  | .word value => value

/-- The type of an argument is part of the signature of its method. -/
def Argument.typeName : Argument → String
  | .address _ => "address"
  | .word _ => "uint256"

namespace Query

/-- Most answers are one word, and the answer about the penalty is left as bytes. -/
@[reducible]
def Answer : Query → Type
  | version => UInt8 × UInt8 × UInt8
  | snapshot _ => EpochSnapshot
  | lockup _ _ => Lockup
  | unlockPenalty _ _ _ => List UInt8
  | withdrawalAllowed _ _ => Bool
  | parameter _ => Word
  | stake _ _ _ => Word
  | pendingRewards _ _ => Word
  | outstandingToken _ _ => Word
  | defi _ => Word

def method : Query → String
  | version => "version"
  | parameter which => which.method
  | snapshot _ => "getEpochSnapshot"
  | stake part _ _ => part.method
  | pendingRewards _ _ => "pendingRewards"
  | lockup _ _ => "getLockupInfo"
  | unlockPenalty _ _ _ => "unlockStake"
  | outstandingToken _ _ => "outstandingSAXIS"
  | withdrawalAllowed _ _ => "allowedToWithdrawStake"
  | defi which => which.method

/-- These are all values that a query is about. -/
def subject : Query → List Argument
  | version => []
  | parameter _ => []
  | snapshot epoch => [.word epoch]
  | stake _ delegator validator => [.address delegator, .word validator]
  | pendingRewards delegator validator => [.address delegator, .word validator]
  | lockup delegator validator => [.address delegator, .word validator]
  | unlockPenalty delegator validator amount =>
      [.address delegator, .word validator, .word amount]
  | outstandingToken delegator validator => [.address delegator, .word validator]
  | withdrawalAllowed delegator validator => [.address delegator, .word validator]
  | defi _ => []

/-- The penalty is asked in the name of the delegator, who is the sender and no argument. -/
def sender? : Query → Option Address
  | unlockPenalty delegator _ _ => some delegator
  | _ => none

def arguments : Query → List Argument
  | unlockPenalty _ validator amount => [.word validator, .word amount]
  | query => query.subject

end Query

end NodeBridge.Staking
