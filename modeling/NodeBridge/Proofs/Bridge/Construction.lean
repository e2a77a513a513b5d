import NodeBridge.Bridge.Basic
import NodeBridge.Proofs.Config.Validation
import NodeBridge.Proofs.Duration

/-
This file compares the check of a configuration with what is built from it.
The facade walks through the contracts until the first one that is unfit, and the check names the
same contract first.
A configuration without problems gives a bridge whose limits and delays are all positive.
-/

namespace NodeBridge.Staking.Facade

open Config (Contract)

/-- The facade knows its contracts by their settings. -/
def address? (facade : Facade) : Contract → Option Address
  | .staking => some facade.staking
  | .tokenizer => facade.tokenizer
  | .addressProvider => facade.defi.addressProvider
  | .minter => facade.defi.minter
  | .tokenRegistry => facade.defi.tokenRegistry
  | .rewardDistribution => facade.defi.rewardDistribution
  | .collateralPool => facade.defi.collateralPool
  | .debtPool => facade.defi.debtPool
  | .priceOracleAggregate => facade.defi.priceOracleAggregate

/-- A single contract is read like this. -/
def reading (config : Config) (contract : Contract) : Except Failure (Option Address) :=
  if contract.isRequired then (required config contract).map some else optional config contract

/-- The failure of a contract shows its setting and its value. -/
def blame (config : Config) (contract : Contract) (cause : Address.ParseError) : Failure :=
  .malformed (.address contract.name (contract.value config) cause)

/-- No address stands for an empty text, and an address for the text that it is read from. -/
def Stands (config : Config) (contract : Contract) : Option Address → Prop
  | none => contract.value config = ""
  | some address =>
      contract.value config ≠ "" ∧ Address.parse (contract.value config) = .ok address

variable {config : Config} {contract : Contract} {contracts : List Contract}
  {addresses : List (Option Address)} {failure : Failure} {facade : Facade}

/-- Either the check and the reading are content with a contract, or both are not. -/
theorem readingCases (config : Config) (contract : Contract) :
    (contract.problem? config = none ∧
      ∃ address, reading config contract = .ok address ∧ Stands config contract address) ∨
    ∃ cause, Address.parse (contract.value config) = .error cause ∧
      contract.problem? config = some (.invalidAddress contract.name (contract.value config)) ∧
      reading config contract = .error (blame config contract cause) := by
  have nothing : Address.ofText? "" = none := by decide +kernel
  have whole : reading config contract =
      if (contract.value config).isEmpty && !contract.isRequired then .ok none
      else (required config contract).map some := by
    rw [reading, optional]
    cases contract.isRequired <;> simp
  rw [whole, Contract.problem?, Config.Setting.address?, required]
  by_cases unset : ((contract.value config).isEmpty && !contract.isRequired) = true
  · rw [if_pos unset, if_pos unset]
    rw [Bool.and_eq_true, String.isEmpty_iff] at unset
    exact .inl ⟨rfl, none, rfl, unset.1⟩
  · rw [if_neg unset, if_neg unset]
    cases parsed : Address.parse (contract.value config) with
    | error cause => exact .inr ⟨cause, rfl, rfl, rfl⟩
    | ok address =>
        refine .inl ⟨rfl, some address, rfl, ?_, parsed⟩
        intro empty
        rw [Address.ofText?, ← empty, parsed] at nothing
        contradiction

/-- A walk that fails stops at the first contract that the check complains about. -/
theorem walkFails (failed : contracts.mapM (reading config) = .error failure) :
    ∃ contract cause, (contracts.filterMap (Contract.problem? config)).head? =
        some (.invalidAddress contract.name (contract.value config)) ∧
      Address.parse (contract.value config) = .error cause ∧
      failure = blame config contract cause := by
  induction contracts with
  | nil => contradiction
  | cons contract rest inductionHypothesis =>
      rw [List.mapM_cons] at failed
      rcases readingCases config contract with ⟨fine, address, read, _⟩ | ⟨cause, unfit, bad, read⟩
      · rw [List.filterMap_cons_none fine]
        rw [read] at failed
        cases walked : rest.mapM (reading config) with
        | ok addresses =>
            rw [walked] at failed
            contradiction
        | error other =>
            rw [walked] at failed
            obtain rfl := Except.error.inj failed
            exact inductionHypothesis walked
      · rw [List.filterMap_cons_some bad]
        rw [read] at failed
        exact ⟨contract, cause, rfl, unfit, (Except.error.inj failed).symm⟩

/-- A walk that succeeds leaves nothing to complain about and finds every address. -/
theorem walkSucceeds {found : Contract → Option Address}
    (walked : contracts.mapM (reading config) = .ok (contracts.map found)) :
    contracts.filterMap (Contract.problem? config) = [] ∧
      ∀ contract ∈ contracts, Stands config contract (found contract) := by
  induction contracts with
  | nil => exact ⟨rfl, fun _ absent => absurd absent List.not_mem_nil⟩
  | cons contract rest inductionHypothesis =>
      rw [List.mapM_cons] at walked
      rcases readingCases config contract with ⟨fine, address, read, stands⟩ | ⟨_, _, _, read⟩
      · rw [read] at walked
        cases walkedOn : rest.mapM (reading config) with
        | error other =>
            rw [walkedOn] at walked
            contradiction
        | ok addresses =>
            rw [walkedOn] at walked
            obtain ⟨rfl, rfl⟩ := List.cons.inj (Except.ok.inj walked)
            obtain ⟨none, all⟩ := inductionHypothesis walkedOn
            rw [List.filterMap_cons_none fine]
            exact ⟨none, List.forall_mem_cons.mpr ⟨stands, all⟩⟩
      · rw [read] at walked
        contradiction

/-- The facade is built by a walk through all contracts, and it takes the timeout over. -/
theorem ofConfigWalks (config : Config) :
    (ofConfig config).map (fun facade => (Contract.all.map facade.address?, facade.callTimeout)) =
      (Contract.all.mapM (reading config)).map fun addresses =>
        (addresses, config.rpc.callTimeout) := by
  have functorial {A B : Type} (change : A → B) (outcome : Except Failure A) :
      outcome.map change = change <$> outcome := rfl
  simp [ofConfig, Contract.all, reading, Contract.isRequired, List.mapM_cons, address?, functorial,
    map_bind]

theorem walkOfError (failed : ofConfig config = .error failure) :
    Contract.all.mapM (reading config) = .error failure := by
  have walks := ofConfigWalks config
  rw [failed] at walks
  cases walked : Contract.all.mapM (reading config) with
  | ok addresses =>
      rw [walked] at walks
      contradiction
  | error other =>
      rw [walked] at walks
      obtain rfl := Except.error.inj walks
      rfl

theorem walkOfOk (built : ofConfig config = .ok facade) :
    Contract.all.mapM (reading config) = .ok (Contract.all.map facade.address?) ∧
      facade.callTimeout = config.rpc.callTimeout := by
  have walks := ofConfigWalks config
  rw [built] at walks
  cases walked : Contract.all.mapM (reading config) with
  | error other =>
      rw [walked] at walks
      contradiction
  | ok addresses =>
      rw [walked] at walks
      obtain ⟨same, timeout⟩ := Prod.mk.inj (Except.ok.inj walks)
      exact ⟨congrArg _ same.symm, timeout⟩

end NodeBridge.Staking.Facade

namespace NodeBridge.Bridge

open Config (Contract Problem)
open Staking (Facade)

/-- What is built from a configuration agrees with what the check says about it. -/
structure Agrees (config : Config) : Prop where
  /-- The facade is refused exactly when some address is reported. -/
  refuses : (∃ failure, Facade.ofConfig config = .error failure) ↔
    ∃ problem ∈ config.problems, problem.isInvalidAddress = true
  /-- The failure shows the setting and the value that are reported first. -/
  blames : ∀ failure, Facade.ofConfig config = .error failure → ∃ name value cause,
    config.problems.find? Problem.isInvalidAddress = some (.invalidAddress name value) ∧
      Address.parse value = .error cause ∧ failure = .malformed (.address name value cause)
  /-- Every contract is found at the address of its own setting, or its setting is empty. -/
  finds : ∀ facade, Facade.ofConfig config = .ok facade → ∀ contract,
    (facade.address? contract = none ↔ contract.value config = "") ∧
      ∀ address, facade.address? contract = some address →
        Address.parse (contract.value config) = .ok address

/-- A bridge takes from such a configuration what is written there, and nothing in it is zero. -/
structure Usable (config : Config) : Prop where
  /-- The facade is built, and its calls have time. -/
  asks : ∃ facade, Facade.ofConfig config = .ok facade ∧
    facade.callTimeout = config.rpc.callTimeout ∧ 0 < facade.limit
  /-- The feed gets the bound that was asked for, and nobody is warned. -/
  bounds : ∀ A : Type,
    (Feed.Dispatch.ofCapacity config.observer.capacity.toNat : Feed.Dispatch A).channel.capacity =
      (if config.observer.capacity = 0 then none else some config.observer.capacity.toNat) ∧
    Feed.capacityEvents config.observer.capacity.toNat = []
  /-- Attempts have time, and the worker waits after each one that fails. -/
  paces : ∀ facade node, 0 < (start config facade node).openLimit.milliseconds ∧
    ∀ worker, (start config facade node).world.worker = some worker →
      (∀ failures, 0 < (worker.policy failures).milliseconds) ∧
      (start config facade node).world.channel =
        .ofCapacity config.observer.capacity.toNat

/-- Check and construction find the same addresses unfit, in the same order. -/
theorem agrees (config : Config) : Agrees config := by
  have reported : config.problems.find? Problem.isInvalidAddress =
      (Contract.all.filterMap (Contract.problem? config)).head? := by
    rw [← List.head?_filter, Config.addressProblems]
  have blames (failure : Staking.Failure) (failed : Facade.ofConfig config = .error failure) :
      ∃ name value cause,
        config.problems.find? Problem.isInvalidAddress = some (.invalidAddress name value) ∧
          Address.parse value = .error cause ∧
          failure = .malformed (.address name value cause) := by
    obtain ⟨contract, cause, first, unfit, blamed⟩ := Facade.walkFails (Facade.walkOfError failed)
    exact ⟨_, _, cause, reported.trans first, unfit, blamed⟩
  refine ⟨⟨fun ⟨failure, failed⟩ => ?_, fun ⟨problem, member, isBad⟩ => ?_⟩, blames, ?_⟩
  · obtain ⟨name, value, _, first, _⟩ := blames failure failed
    exact ⟨_, List.mem_of_find?_eq_some first, rfl⟩
  · cases built : Facade.ofConfig config with
    | error failure => exact ⟨failure, rfl⟩
    | ok facade =>
        obtain ⟨none, _⟩ := Facade.walkSucceeds (Facade.walkOfOk built).1
        have found : problem ∈ config.problems.filter Problem.isInvalidAddress :=
          List.mem_filter.mpr ⟨member, isBad⟩
        rw [Config.addressProblems, none] at found
        contradiction
  · intro facade built contract
    have stands := (Facade.walkSucceeds (Facade.walkOfOk built).1).2 contract contract.memAll
    cases found : facade.address? contract with
    | none =>
        rw [found] at stands
        exact ⟨⟨fun _ => stands, fun _ => rfl⟩, fun _ absent => nomatch absent⟩
    | some address =>
        rw [found] at stands
        refine ⟨⟨(fun absent => nomatch absent), fun empty => absurd empty stands.1⟩, ?_⟩
        rintro _ ⟨⟩
        exact stands.2

/-- Every setting of a configuration without problems is fit for what is built from it. -/
theorem usable {config : Config} (valid : config.problems = []) : Usable config := by
  have filled {name : String} {value : UInt64} (fits : Config.Setting.zero? name value = none) :
      0 < (Duration.ofSeconds value.toNat).milliseconds := by
    have positive := Config.Setting.zeroFits.mp fits
    rw [Duration.millisecondsOfSeconds]
    omega
  have retryDelay := Config.fits valid .retryDelay
  have openTimeout := Config.fits valid .openTimeout
  have callTimeout := Config.Setting.zeroFits.mp (Config.fits valid .callTimeout)
  have small : config.observer.capacity.toNat ≤ Feed.maximumCapacity := by
    have fits := Config.fits valid .capacity
    simp only [Config.Setting.problem?] at fits
    split at fits
    · contradiction
    · omega
  refine ⟨?_, fun A => ⟨?_, ?_⟩, fun facade node => ⟨filled openTimeout, ?_⟩⟩
  · cases built : Facade.ofConfig config with
    | ok facade =>
        have timeout := (Facade.walkOfOk built).2
        refine ⟨facade, rfl, timeout, ?_⟩
        rw [Facade.limit, timeout]
        omega
    | error failure =>
        obtain ⟨_, member, _⟩ := (agrees config).refuses.mp ⟨failure, built⟩
        rw [valid] at member
        contradiction
  · have unset : config.observer.capacity = 0 ↔ config.observer.capacity.toNat = 0 := by
      rw [← UInt64.toNat_inj]
      rfl
    simp only [Feed.Dispatch.ofCapacity, Feed.Channel.ofCapacity, Feed.clampEqSelf small, unset]
  · rw [Feed.capacityEvents, if_neg (Nat.not_lt.mpr small)]
  · intro worker present
    rw [start] at present ⊢
    cases enabled : config.observer.enabled with
    | false => simp [enabled, Observer.World.report] at present
    | true =>
        simp only [enabled, if_true] at present ⊢
        obtain rfl := Option.some.inj present
        exact ⟨fun _ => filled retryDelay, rfl⟩

/-- The check of a configuration and what is built from it agree, and whatever was parsed is fit to
be built from. -/
theorem checkAgreesWithConstruction :
    (∀ config, Agrees config) ∧ (∀ config, config.problems = [] → Usable config) ∧
      ∀ source config, Config.parse source = .ok config → Usable config :=
  ⟨agrees, fun _ => usable, fun _ _ read => usable (Config.parsed read)⟩

/-- Two addresses and the endpoint are unfit. -/
def unfitTwice : Config :=
  { rpc := { url := "node.sock" }
    staking := { tokenizer := "0x12" }
    defi := { minter := "zz" } }

/-- This text asks for a feed without a bound. -/
def unboundedText : String := "rpc.url = 'node.ipc'\nobserver.channel_capacity = 0"

/-- The tokenizer is named first, and a text without a bound gives a feed without one. -/
theorem checkAgreesWithConstructionUnfit :
    (∃ cause, Facade.ofConfig unfitTwice =
      .error (.malformed (.address "sfc.tokenizer" "0x12" cause))) ∧
    ∃ config, Config.parse unboundedText = .ok config ∧
      (Feed.Dispatch.ofCapacity config.observer.capacity.toNat :
        Feed.Dispatch Heads.Header).channel.capacity = none := by
  obtain ⟨agree, _, usable⟩ := checkAgreesWithConstruction
  constructor
  · have agrees := agree unfitTwice
    obtain ⟨failure, failed⟩ := agrees.refuses.mpr
      ⟨.invalidAddress "defi.minter" "zz", by decide +kernel, rfl⟩
    obtain ⟨name, value, cause, first, _, rfl⟩ := agrees.blames failure failed
    have tokenizer : unfitTwice.problems.find? Config.Problem.isInvalidAddress =
        some (.invalidAddress "sfc.tokenizer" "0x12") := by decide +kernel
    obtain ⟨rfl, rfl⟩ := Config.Problem.invalidAddress.inj
      (Option.some.inj (first.symm.trans tokenizer))
    exact ⟨cause, failed⟩
  · have unbounded : ((Config.parse unboundedText).toOption.map
        fun config => config.observer.capacity) = some 0 := by decide +kernel
    cases read : Config.parse unboundedText with
    | error cause =>
        rw [read] at unbounded
        contradiction
    | ok config =>
        rw [read] at unbounded
        have bound := ((usable _ config read).bounds Heads.Header).1
        rw [if_pos (Option.some.inj unbounded)] at bound
        exact ⟨config, rfl, bound⟩

end NodeBridge.Bridge
