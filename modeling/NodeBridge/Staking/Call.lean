import NodeBridge.Staking.Accessor
import NodeBridge.Staking.RecordJson

/-
This file makes calls out of names and arguments, with JSON on both sides.
-/

namespace NodeBridge.Staking

/-- A call names its reading, and a reading uses the arguments that it needs. -/
structure Call where
  name : String
  delegator : Address
  validator : Word
  amount : Word
  epoch : UInt64

namespace Call

def wordAt (key : String) (value : Json) : Word := ((value.member? key).bind wordOfJson?).getD 0

/-- An argument that is missing or cannot be read counts as zero. -/
def ofJson (value : Json) : Call where
  name := ((value.member? "call").bind Json.text?).getD ""
  delegator := ((value.member? "delegator").bind addressOfJson?).getD Address.zero
  validator := wordAt "validator" value
  amount := wordAt "amount" value
  epoch := ((value.member? "id").bind Json.count?).getD 0

/-- The value of a reading is written as JSON, and an unknown name has no reading. -/
def reading? (addresses : DefiAddresses) (call : Call) : Option (Reading Json) :=
  let delegator := call.delegator
  let validator := call.validator
  let count (reading : Reading UInt64) := some (Json.ofCount <$> reading)
  let word (reading : Reading Word) := some (wordToJson <$> reading)
  let flag (reading : Reading Bool) := some (Json.boolean <$> reading)
  match call.name with
  | "sfc_version" => count version
  | "current_epoch" => count currentEpoch
  | "current_sealed_epoch" => count currentSealedEpoch
  | "epoch" => some (Epoch.toJson <$> Staking.epoch call.epoch)
  | "rewards_allowed" => flag rewardsAllowed
  | "locking_allowed" => flag lockingAllowed
  | "total_staked" => word totalStaked
  | "min_validator_stake" => word minimumValidatorStake
  | "max_delegated_ratio" => word maximumDelegatedRatio
  | "min_lockup_duration" => word minimumLockupDuration
  | "max_lockup_duration" => word maximumLockupDuration
  | "withdrawal_period_epochs" => word withdrawalPeriodEpochs
  | "withdrawal_period_time" => word withdrawalPeriodTime
  | "amount_staked" => word (amountStaked delegator validator)
  | "amount_stake_locked" => word (amountLocked delegator validator)
  | "amount_stake_unlocked" => word (amountUnlocked delegator validator)
  | "stake_unlock_penalty" => word (unlockPenalty delegator validator call.amount)
  | "pending_rewards" => some (PendingRewards.toJson <$> pendingRewards delegator validator)
  | "delegation_lock" => some (DelegationLock.toJson <$> delegationLock delegator validator)
  | "delegation_outstanding_saxis" => word (outstandingToken delegator validator)
  | "delegation_tokenizer_unlocked" => flag (withdrawalAllowed delegator validator)
  | "defi_configuration" => some (DefiSettings.toJson <$> defiSettings addresses)
  | "defi_addresses" => some (pure addresses.toJson)
  | _ => none

end Call

/-- What is missing in an answer counts as zero. -/
def EpochSnapshot.ofJson (value : Json) : EpochSnapshot where
  endTime := Call.wordAt "endTime" value
  epochFee := Call.wordAt "epochFee" value
  totalBaseRewardWeight := Call.wordAt "totalBaseRewardWeight" value
  totalTxRewardWeight := Call.wordAt "totalTxRewardWeight" value
  baseRewardPerSecond := Call.wordAt "baseRewardPerSecond" value
  totalStake := Call.wordAt "totalStake" value
  totalSupply := Call.wordAt "totalSupply" value

def Lockup.ofJson (value : Json) : Lockup where
  lockedStake := Call.wordAt "lockedStake" value
  fromEpoch := Call.wordAt "fromEpoch" value
  endTime := Call.wordAt "endTime" value
  duration := Call.wordAt "duration" value

/-- An answer is read as its query wants it. -/
def Query.answerOfJson (value : Json) : (query : Query) → query.Answer
  | version =>
      let bytes := (value.text?.bind Hex.ofText?).getD []
      (bytes[0]?.getD 0, bytes[1]?.getD 0, bytes[2]?.getD 0)
  | snapshot _ => EpochSnapshot.ofJson value
  | lockup _ _ => Lockup.ofJson value
  | unlockPenalty _ _ _ => (value.text?.bind Hex.ofText?).getD []
  | withdrawalAllowed _ _ => value.boolean?.getD false
  | parameter _ => (wordOfJson? value).getD 0
  | stake _ _ _ => (wordOfJson? value).getD 0
  | pendingRewards _ _ => (wordOfJson? value).getD 0
  | outstandingToken _ _ => (wordOfJson? value).getD 0
  | defi _ => (wordOfJson? value).getD 0

end NodeBridge.Staking
