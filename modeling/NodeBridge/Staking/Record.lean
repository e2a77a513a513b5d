import NodeBridge.Address

/-
This file defines the records that the staking and lending contracts are read into.
The decimal places of a market are counted in 32 bits.
-/

namespace NodeBridge.Staking

/-- A sealed epoch with its weights and totals. -/
structure Epoch where
  id : UInt64
  endTime : UInt64
  epochFee : Word
  totalBaseRewardWeight : Word
  totalTxRewardWeight : Word
  baseRewardPerSecond : Word
  stakeTotalAmount : Word
  totalSupply : Word
  deriving DecidableEq

/-- The rewards of a delegation that were not claimed yet. -/
structure PendingRewards where
  address : Address
  staker : Word
  amount : Word
  deriving DecidableEq

structure DelegationLock where
  lockedAmount : Word
  lockedFromEpoch : UInt64
  lockedUntil : UInt64
  duration : UInt64
  deriving DecidableEq

/-- The contracts of the lending market, as far as they are set. -/
structure DefiAddresses where
  addressProvider : Option Address := none
  minter : Option Address := none
  tokenRegistry : Option Address := none
  rewardDistribution : Option Address := none
  collateralPool : Option Address := none
  debtPool : Option Address := none
  priceOracleAggregate : Option Address := none
  deriving DecidableEq

/-- The three ratios have four decimal places in fixed point. -/
structure DefiSettings where
  mintContract : Address
  mintAddressProvider : Option Address
  mintTokenRegistry : Option Address
  mintRewardDistribution : Option Address
  mintCollateralPool : Option Address
  mintDebtPool : Option Address
  priceOracleAggregate : Option Address
  mintFee : Word
  minimumCollateralRatio : Word
  rewardCollateralRatio : Word
  decimals : Int32
  deriving DecidableEq

/-- A contract reports an epoch without its number, and all values are words. -/
structure EpochSnapshot where
  endTime : Word := 0
  epochFee : Word := 0
  totalBaseRewardWeight : Word := 0
  totalTxRewardWeight : Word := 0
  baseRewardPerSecond : Word := 0
  totalStake : Word := 0
  totalSupply : Word := 0
  deriving DecidableEq

/-- A contract reports the lock of a delegation in four words. -/
structure Lockup where
  lockedStake : Word := 0
  fromEpoch : Word := 0
  endTime : Word := 0
  duration : Word := 0
  deriving DecidableEq

/-- The three parts of a version fill three bytes of a number, most significant first. -/
def packVersion (major minor patch : UInt8) : UInt64 :=
  UInt64.ofNat (65536 * major.toNat + 256 * minor.toNat + patch.toNat)

/-- A correction factor stands for as many decimal places as it takes to divide it down to one. -/
def decimalPlaces (correction : Nat) : Nat :=
  if correction ≤ 1 then 0 else decimalPlaces (correction / 10) + 1
termination_by correction

/-- The divisions of a correction are counted in 32 bits. There is no count if the counter has to
pass its largest value. -/
def countPlaces (correction : UInt64) (counter : Int32) : Option Int32 :=
  if correction ≤ 1 then some counter
  else if counter = Int32.maxValue then none
  else countPlaces (correction / 10) (counter + 1)
termination_by correction.toNat
decreasing_by
  have more : ¬correction.toNat ≤ 1 := ‹¬correction ≤ 1›
  rw [UInt64.toNat_div]
  exact Nat.div_lt_self (by omega) (by decide)

theorem decimalPlacesSmall {correction : Nat} (small : correction ≤ 1) :
    decimalPlaces correction = 0 := by
  rw [decimalPlaces, if_pos small]

/-- One division is counted, if the counter has room for it. -/
theorem countPlacesDivide {correction : UInt64} {counted : Nat} (more : ¬correction ≤ 1)
    (room : counted < 2147483647) :
    countPlaces correction (Int32.ofNat counted) =
      countPlaces (correction / 10) (Int32.ofNat (counted + 1)) := by
  have free : Int32.ofNat counted ≠ Int32.maxValue := by
    intro full
    have same := congrArg Int32.toInt full
    rw [Int32.toInt_ofNat_of_lt (by omega)] at same
    have largest : Int32.maxValue.toInt = 2147483647 := by decide
    omega
  rw [countPlaces, if_neg more, if_neg free, Int32.ofNat_add]
  rfl

/-- The places that are left are added to those that were counted, as long as there is room. -/
theorem countPlacesFrom (correction : UInt64) (counted : Nat)
    (room : counted + decimalPlaces correction.toNat ≤ 2147483647) :
    countPlaces correction (Int32.ofNat counted) =
      some (Int32.ofNat (counted + decimalPlaces correction.toNat)) := by
  -- A division moves one place from those that are left to those that are counted.
  induction size : correction.toNat using Nat.strongRecOn generalizing correction counted with
  | ind number inductionHypothesis =>
      subst size
      by_cases small : correction ≤ 1
      · have none : decimalPlaces correction.toNat = 0 := decimalPlacesSmall small
        rw [countPlaces, if_pos small, none, Nat.add_zero]
      · have more : ¬correction.toNat ≤ 1 := small
        have tenth : (correction / 10).toNat = correction.toNat / 10 := UInt64.toNat_div _ _
        have divided :
            decimalPlaces correction.toNat = decimalPlaces (correction / 10).toNat + 1 := by
          rw [decimalPlaces, if_neg more, tenth]
        rw [divided] at room ⊢
        rw [countPlacesDivide small (by omega),
          inductionHypothesis _ (by omega) _ _ (by omega) rfl, Nat.add_right_comm, Nat.add_assoc]

end NodeBridge.Staking
