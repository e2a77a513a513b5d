import Mathlib.Order.Bounds.Defs
import NodeBridge.Proofs.Bridge.Construction
import NodeBridge.Proofs.Staking.Evaluation

/-
This file says that readings carry their arguments to the contracts and the values back.
The contracts are known from the settings, and a value that a contract returns ends in the field
that it belongs to.
-/

namespace NodeBridge.Staking

open Inquiry (run)

/-- The settings name the contracts that are called. -/
def ContractRole.setting : ContractRole → Config.Contract
  | staking => .staking
  | tokenizer => .tokenizer
  | minter => .minter

namespace Facade

variable {config : Config} {facade : Facade} {address : Address}

/-- At most one address stands for a setting. -/
theorem standsUnique {contract : Config.Contract} {one other : Option Address}
    (first : Stands config contract one) (second : Stands config contract other) : one = other := by
  cases one with
  | none =>
      cases other with
      | none => rfl
      | some address => exact absurd first second.1
  | some address =>
      cases other with
      | none => exact absurd second first.1
      | some stranger => rw [Except.ok.inj (first.2.symm.trans second.2)]

theorem builtStands (built : ofConfig config = .ok facade) (contract : Config.Contract) :
    Stands config contract (facade.address? contract) :=
  (walkSucceeds (walkOfOk built).1).2 contract (by cases contract <;> decide)

theorem minterOfStands (built : ofConfig config = .ok facade)
    (stands : Stands config .minter (some address)) : facade.defi.minter = some address :=
  standsUnique (facade.builtStands built .minter) stands

/-- A query goes to the address that is set for its contract. -/
theorem targetOfStands {query : Query} (built : ofConfig config = .ok facade)
    (stands : Stands config query.contract.setting (some address)) :
    facade.target query = .ok address := by
  have found := standsUnique (facade.builtStands built _) stands
  rw [target]
  cases role : query.contract with
  | staking =>
      rw [role] at found
      exact congrArg Except.ok (Option.some.inj found)
  | tokenizer =>
      rw [role] at found
      change facade.tokenizer = some address at found
      simp [found]
  | minter =>
      rw [role] at found
      change facade.defi.minter = some address at found
      simp [found]

end Facade

/-- A word becomes a number of 64 bits, and a word that is too large is refused under its name. -/
inductive Narrowed (name : String) (word : Word) : Except Failure UInt64 → Prop where
  | fits {number : UInt64} (same : number.toNat = word.toNat) : Narrowed name word (.ok number)
  | tooLarge (large : 2 ^ 64 ≤ word.toNat) :
      Narrowed name word (.error (.malformed (.tooLarge name word)))

theorem narrowed (name : String) (word : Word) : Narrowed name word (narrow name word) := by
  rw [narrow]
  split
  case isTrue small => exact .fits (UInt64.toNat_ofNat_of_lt' small)
  case isFalse large => exact .tooLarge (Nat.le_of_not_lt large)

/-- The settings of the lending market take the addresses from the settings of the bridge and the
numbers from the minter. -/
structure MarketOf (config : Config) (minter : Address) (contracts : Contracts)
    (correction : UInt64) (settings : DefiSettings) : Prop where
  mintContract : settings.mintContract = minter
  mintAddressProvider : Facade.Stands config .addressProvider settings.mintAddressProvider
  mintTokenRegistry : Facade.Stands config .tokenRegistry settings.mintTokenRegistry
  mintRewardDistribution : Facade.Stands config .rewardDistribution settings.mintRewardDistribution
  mintCollateralPool : Facade.Stands config .collateralPool settings.mintCollateralPool
  mintDebtPool : Facade.Stands config .debtPool settings.mintDebtPool
  priceOracleAggregate : Facade.Stands config .priceOracleAggregate settings.priceOracleAggregate
  mintFee : settings.mintFee = contracts (.defi .mintFee)
  minimumCollateralRatio :
    settings.minimumCollateralRatio = contracts (.defi .minimumCollateralRatio)
  rewardCollateralRatio : settings.rewardCollateralRatio = contracts (.defi .rewardCollateralRatio)
  decimals : ∃ places : Nat, settings.decimals.toInt = places ∧
    IsLeast {places : Nat | correction.toNat / 10 ^ places ≤ 1} places

/-- Every value that the contracts return is found in its own field. -/
def Accessor.Returns (config : Config) (address : Address) (contracts : Contracts) :
    (accessor : Accessor) → Except Failure accessor.Result → Prop
  | version, result => ∃ number : UInt64, result = .ok number ∧
      let (major, minor, patch) := contracts .version
      number.toNat = 2 ^ 16 * major.toNat + 2 ^ 8 * minor.toNat + patch.toNat
  | currentEpoch, result =>
      Narrowed "currentEpoch" (contracts (.parameter .currentEpoch)) result
  | currentSealedEpoch, result =>
      Narrowed "currentSealedEpoch" (contracts (.parameter .currentSealedEpoch)) result
  | epoch id, result =>
      let snapshot := contracts (.snapshot (BitVec.ofNat 256 id.toNat))
      ∃ endTime, Narrowed "epoch end time" snapshot.endTime endTime ∧
        result = endTime.map fun endTime => {
          id, endTime
          epochFee := snapshot.epochFee
          totalBaseRewardWeight := snapshot.totalBaseRewardWeight
          totalTxRewardWeight := snapshot.totalTxRewardWeight
          baseRewardPerSecond := snapshot.baseRewardPerSecond
          stakeTotalAmount := snapshot.totalStake
          totalSupply := snapshot.totalSupply }
  | rewardsAllowed, result => result = .ok true
  | lockingAllowed, result =>
      ∃ epoch, Narrowed "currentSealedEpoch" (contracts (.parameter .currentSealedEpoch)) epoch ∧
        result = epoch.map fun epoch => decide (1600 ≤ epoch.toNat)
  | totalStaked, result => result = .ok (contracts (.parameter .totalStake))
  | minimumValidatorStake, result => result = .ok (contracts (.parameter .minimumSelfStake))
  | maximumDelegatedRatio, result => result = .ok (contracts (.parameter .maximumDelegatedRatio))
  | minimumLockupDuration, result => result = .ok (contracts (.parameter .minimumLockupDuration))
  | maximumLockupDuration, result => result = .ok (contracts (.parameter .maximumLockupDuration))
  | withdrawalPeriodEpochs, result => result = .ok (contracts (.parameter .withdrawalPeriodEpochs))
  | withdrawalPeriodTime, result => result = .ok (contracts (.parameter .withdrawalPeriodTime))
  | amountStaked delegator validator, result =>
      result = .ok (contracts (.stake .total delegator validator))
  | amountLocked delegator validator, result =>
      result = .ok (contracts (.stake .locked delegator validator))
  | amountUnlocked delegator validator, result =>
      result = .ok (contracts (.stake .unlocked delegator validator))
  | unlockPenalty delegator validator amount, result =>
      result = .ok (contracts (.unlockPenalty delegator validator amount))
  | pendingRewards delegator validator, result =>
      result = .ok {
        address := delegator
        staker := validator
        amount := contracts (.pendingRewards delegator validator) }
  | delegationLock delegator validator, result =>
      let lockup := contracts (.lockup delegator validator)
      ∃ lockedFromEpoch lockedUntil duration,
        Narrowed "lock start epoch" lockup.fromEpoch lockedFromEpoch ∧
        Narrowed "lock end time" lockup.endTime lockedUntil ∧
        Narrowed "lock duration" lockup.duration duration ∧
        result = do
          let lockedFromEpoch ← lockedFromEpoch
          let lockedUntil ← lockedUntil
          let duration ← duration
          return { lockedAmount := lockup.lockedStake, lockedFromEpoch, lockedUntil, duration }
  | outstandingToken delegator validator, result =>
      result = .ok (contracts (.outstandingToken delegator validator))
  | withdrawalAllowed delegator validator, result =>
      result = .ok (contracts (.withdrawalAllowed delegator validator))
  | defiSettings, result =>
      ∃ correction,
        Narrowed "fee digits correction" (contracts (.defi .feeDigitsCorrection)) correction ∧
        match correction with
        | .ok correction => ∃ settings, result = .ok settings ∧
            MarketOf config address contracts correction settings
        | .error failure => result = .error failure

theorem packVersionNumber (major minor patch : UInt8) :
    (packVersion major minor patch).toNat =
      2 ^ 16 * major.toNat + 2 ^ 8 * minor.toNat + patch.toNat := by
  have majorBound := major.toNat_lt
  have minorBound := minor.toNat_lt
  have patchBound := patch.toNat_lt
  rw [packVersion]
  exact UInt64.toNat_ofNat_of_lt' (by simp only [UInt64.size]; omega)

/-- So many times the correction can be divided by ten while it is greater than one. -/
theorem decimalPlacesLeast (correction : Nat) :
    IsLeast {places : Nat | correction / 10 ^ places ≤ 1} (decimalPlaces correction) := by
  induction correction using Nat.strongRecOn with
  | ind correction inductionHypothesis =>
      rw [decimalPlaces]
      split
      case isTrue small => exact ⟨by simpa using small, fun _ _ => Nat.zero_le _⟩
      case isFalse large =>
          obtain ⟨enough, least⟩ := inductionHypothesis (correction / 10) (by omega)
          constructor
          · rw [Set.mem_ofPred_eq, Nat.pow_succ', ← Nat.div_div_eq_div_mul]
            exact enough
          · intro places fits
            cases places with
            | zero => exact absurd (by simpa using fits) large
            | succ places =>
                rw [Set.mem_ofPred_eq, Nat.pow_succ', ← Nat.div_div_eq_div_mul] at fits
                exact Nat.succ_le_succ (least fits)

/-- The number of decimal places is small. -/
theorem decimalPlacesNumber (correction : UInt64) :
    (Int32.ofNat (decimalPlaces correction.toNat)).toInt = decimalPlaces correction.toNat := by
  have bound := correction.toNat_lt
  have enough : correction.toNat / 10 ^ 20 ≤ 1 := by omega
  have few : decimalPlaces correction.toNat ≤ 20 := (decimalPlacesLeast _).2 enough
  rw [Int32.toInt_ofNat_of_lt (by omega)]

namespace Accessor

open Reading

variable {config : Config} {facade : Facade} {address : Address} (contracts : Contracts)

@[simp] theorem outcomeOfParameter (which : Parameter) :
    outcome contracts (parameter which) = .ok (contracts (.parameter which)) :=
  outcomeReporting _ _

@[simp] theorem pathOfParameter (which : Parameter) :
    path contracts (parameter which) = [.parameter which] :=
  pathReporting _ _

@[simp] theorem outcomeOfSmallParameter (which : Parameter) :
    outcome contracts (smallParameter which) =
      narrow which.method (contracts (.parameter which)) := by
  rw [smallParameter, outcomeBind, outcomeOfParameter, okBind, outcomeLift]

@[simp] theorem pathOfSmallParameter (which : Parameter) :
    path contracts (smallParameter which) = [.parameter which] := by
  simp [smallParameter]

@[simp] theorem outcomeOfDefiParameter (which : DefiParameter) :
    outcome contracts (defiParameter which) = .ok (contracts (.defi which)) :=
  outcomeReporting _ _

@[simp] theorem pathOfDefiParameter (which : DefiParameter) :
    path contracts (defiParameter which) = [.defi which] :=
  pathReporting _ _

/-- If the contracts answer, every query of a reading is asked. -/
theorem pathOfReading {addresses : DefiAddresses} {accessor : Accessor}
    (known : accessor.Known addresses) :
    path contracts (accessor.reading addresses) = accessor.queries := by
  cases accessor with
  | epoch id =>
      simp only [reading, Staking.epoch, pathBind, pathReporting, pathQuery, outcomeReporting,
        outcomeQuery, outcomeLift, pathLift, pathPure]
      split <;> rfl
  | lockingAllowed =>
      simp only [reading, Staking.lockingAllowed, Staking.currentSealedEpoch, pathBind,
        pathOfSmallParameter, pathPure]
      split <;> rfl
  | unlockPenalty delegator validator amount =>
      simp [reading, Staking.unlockPenalty, queries, Query.answer, Word.lengthBytes]
  | delegationLock delegator validator => simp [reading, Staking.delegationLock, queries]
  | defiSettings =>
      obtain ⟨minter, found⟩ := Option.ne_none_iff_exists'.mp (known rfl)
      simp only [reading, Staking.defiSettings, found, pathBind, pathOfDefiParameter,
        outcomeOfDefiParameter, outcomeLift, pathLift, pathPure]
      split <;> rfl
  | _ => rfl

/-- A reading of the market ends with the settings of the market. -/
theorem marketReturns (built : Facade.ofConfig config = .ok facade)
    (stands : Facade.Stands config .minter (some address)) :
    defiSettings.Returns config address contracts
      (outcome contracts (Staking.defiSettings facade.defi)) := by
  have found := Facade.minterOfStands built stands
  simp only [Staking.defiSettings, found, outcomeBind, outcomeOfDefiParameter, okBind, outcomeLift,
    outcomePure]
  have read := narrowed "fee digits correction" (contracts (.defi .feeDigitsCorrection))
  refine ⟨_, read, ?_⟩
  cases narrow "fee digits correction" (contracts (.defi .feeDigitsCorrection)) with
  | error failure => rfl
  | ok correction =>
      refine ⟨_, rfl, ?_⟩
      exact {
        mintContract := rfl
        mintAddressProvider := facade.builtStands built .addressProvider
        mintTokenRegistry := facade.builtStands built .tokenRegistry
        mintRewardDistribution := facade.builtStands built .rewardDistribution
        mintCollateralPool := facade.builtStands built .collateralPool
        mintDebtPool := facade.builtStands built .debtPool
        priceOracleAggregate := facade.builtStands built .priceOracleAggregate
        mintFee := rfl
        minimumCollateralRatio := rfl
        rewardCollateralRatio := rfl
        decimals := ⟨_, decimalPlacesNumber correction, decimalPlacesLeast _⟩ }

theorem returns (built : Facade.ofConfig config = .ok facade) {accessor : Accessor}
    (stands : Facade.Stands config accessor.contract.setting (some address)) :
    accessor.Returns config address contracts
      (outcome contracts (accessor.reading facade.defi)) := by
  cases accessor with
  | version => exact ⟨_, rfl, packVersionNumber _ _ _⟩
  | currentEpoch | currentSealedEpoch =>
     rw [reading, Returns]
     exact outcomeOfSmallParameter _ _ ▸ narrowed _ _
  | epoch id =>
      refine ⟨_, narrowed _ _, ?_⟩
      simp only [reading, Staking.epoch, outcomeBind, outcomeReporting, outcomeQuery, outcomeLift,
        outcomePure]
      rfl
  | lockingAllowed =>
      refine ⟨_, narrowed _ _, ?_⟩
      simp only [reading, Staking.lockingAllowed, Staking.currentSealedEpoch, outcomeBind,
        outcomeOfSmallParameter, outcomePure]
      rfl
  | unlockPenalty delegator validator amount =>
      simp [reading, Staking.unlockPenalty, Returns, Query.answer, Word.lengthBytes,
        Word.ofBytesBytes]
  | delegationLock delegator validator =>
      refine ⟨_, _, _, narrowed _ _, narrowed _ _, narrowed _ _, ?_⟩
      simp only [reading, Staking.delegationLock, outcomeBind, outcomeReporting, outcomeQuery,
        outcomeLift]
      rfl
  | defiSettings => exact marketReturns contracts built stands
  | _ => rfl

end Accessor

/-- A configuration names the contracts, and a reading speaks to its own contract only. What is
sent gives the arguments back, and what is received ends in the fields of the value. -/
theorem callsAreFaithful {config : Config} {facade : Facade} (accessor : Accessor)
    {address : Address} (built : Facade.ofConfig config = .ok facade)
    (stands : Facade.Stands config accessor.contract.setting (some address))
    (session : Facade.Session) :
    let finished := run facade.respond (accessor.reading facade.defi) ⟨session, [], []⟩
    let requests := finished.2.state.exchange.requests
    (∃ asked, asked <+: accessor.queries ∧
      requests = session.exchange.requests ++ asked.map (Facade.request address)) ∧
    (∀ query ∈ accessor.queries, Conveys address query (Facade.request address query)) ∧
    ∀ contracts replies rest, session.exchange.replies = replies ++ rest →
      List.Forall₂ (Carries (1000 * config.rpc.callTimeout.toNat) contracts) accessor.queries
        replies →
      requests = session.exchange.requests ++ accessor.queries.map (Facade.request address) ∧
        accessor.Returns config address contracts finished.1 := by
  have known : ∀ query ∈ accessor.queries, facade.target query = .ok address := by
    intro query member
    apply Facade.targetOfStands built
    rw [Accessor.contractOfQuery member]
    exact stands
  refine ⟨?_, fun query _ => conveys address query, ?_⟩
  · obtain ⟨notes, dialogue, _, _, answers⟩ :=
      Inquiry.runDialogue facade.respond (accessor.reading facade.defi) ⟨session, [], []⟩
    have linked := Inquiry.linked facade.respond (accessor.reading facade.defi) ⟨session, [], []⟩
    have isPrefix := (accessor.asks facade.defi _ _ dialogue).1
    have isAsked := askedOfTurns answers
    refine ⟨asked notes, isPrefix, ?_⟩
    rw [isAsked, List.map_map]
    refine Facade.linkedRequests linked fun turn member => known _ (isPrefix.subset ?_)
    rw [isAsked]
    exact List.mem_map_of_mem member
  · intro contracts replies rest waiting carry
    have limit : facade.limit = 1000 * config.rpc.callTimeout.toNat := by
      rw [Facade.limit, (Facade.walkOfOk built).2]
    have isKnown : accessor.Known facade.defi := by
      rintro rfl
      rw [Facade.minterOfStands built stands]
      exact Option.some_ne_none _
    have all : Inquiry.path contracts (accessor.reading facade.defi) = accessor.queries :=
      Accessor.pathOfReading contracts isKnown
    rw [← limit, ← all] at carry
    rw [← all] at known
    obtain ⟨value, requests⟩ := facade.runCarried (accessor.reading facade.defi) ⟨session, [], []⟩
      known waiting carry
    rw [all] at requests
    refine ⟨requests, ?_⟩
    rw [value]
    exact Accessor.returns contracts built stands

/-- The settings as they are if nothing is set stand for this facade. -/
def plainFacade : Facade where
  staking := ⟨0xFC00FACE00000000000000000000000000000000⟩
  tokenizer := none
  defi := {}
  callTimeout := 10

/-- Every stake is locked in the same way, and all other values are as small as possible. -/
def lockingContracts : Contracts
  | .version => (3, 0, 1)
  | .snapshot _ => {}
  | .lockup _ _ =>
      { lockedStake := 0x400000000000000000
        fromEpoch := 1600
        endTime := 1700000000
        duration := 86400 }
  | .withdrawalAllowed _ _ => false
  | .unlockPenalty _ _ _ => (0 : Word)
  | .parameter _ => (0 : Word)
  | .stake _ _ _ => (0 : Word)
  | .pendingRewards _ _ => (0 : Word)
  | .outstandingToken _ _ => (0 : Word)
  | .defi _ => (0 : Word)

/-- The reply is due exactly at the limit. -/
def lockReply : Connection.Reply where
  outcome := .result (.text (Hex.text
    ((Query.lockup Address.zero 3).encoding (lockingContracts (.lockup Address.zero 3)))))
  delay := 10000

theorem callsAreFaithfulAtTheLimit :
    let session : Facade.Session := ⟨{ replies := [lockReply], missing := .silent }, []⟩
    let accessor := Accessor.delegationLock Address.zero 3
    Facade.ofConfig {} = .ok plainFacade ∧
      Facade.Stands {} accessor.contract.setting (some plainFacade.staking) ∧
      Carries 10000 lockingContracts (.lockup Address.zero 3) lockReply ∧
      accessor.Returns {} plainFacade.staking lockingContracts
        (run plainFacade.respond (accessor.reading plainFacade.defi) ⟨session, [], []⟩).1 := by
  have built : Facade.ofConfig {} = .ok plainFacade := by decide +kernel
  have stands : Facade.Stands {} .staking (some plainFacade.staking) :=
    ⟨by decide, by decide +kernel⟩
  have carries : Carries 10000 lockingContracts (.lockup Address.zero 3) lockReply :=
    ⟨by simp [Connection.Reply.due, lockReply], _, rfl, Hex.ofTextText _⟩
  have limit : 10000 = 1000 * ({} : Config).rpc.callTimeout.toNat := by decide
  refine ⟨built, stands, carries, ?_⟩
  obtain ⟨_, _, returns⟩ := callsAreFaithful (.delegationLock Address.zero 3) built stands
    ⟨{ replies := [lockReply], missing := .silent }, []⟩
  exact (returns lockingContracts [lockReply] [] rfl (.cons (limit ▸ carries) .nil)).2

end NodeBridge.Staking
