import Mathlib.Algebra.Group.Nat.Defs
import NodeBridge.Proofs.Config.Overrides
import NodeBridge.Proofs.Config.Validation

/-
This file says that the check of a configuration reports every problem once and on its own.
Each of the sixteen settings breaks its own condition or not, and the value of one field has no
influence on what is said about the others.
-/

namespace NodeBridge.Config

/-- This is the field that a problem is about. -/
def Problem.field : Problem → String
  | unsupportedEndpoint _ => "rpc.url"
  | invalidAddress name _ => name
  | zero name => name
  | emptyTopic => "observer.topic"
  | capacityTooLarge _ _ => "observer.channel_capacity"
  | unknownLogLevel _ => "observability.log_level"

namespace Setting

/-- Every setting belongs to a section. -/
def part : Setting → Section
  | endpoint => .rpc
  | callTimeout => .rpc
  | retryDelay => .observer
  | openTimeout => .observer
  | topic => .observer
  | capacity => .observer
  | contract .staking => .staking
  | contract .tokenizer => .staking
  | contract _ => .defi
  | logLevel => .observability

/-- This is the key of a setting in its section. -/
def key : Setting → String
  | endpoint => "url"
  | callTimeout => "call_timeout_secs"
  | retryDelay => "retry_delay_secs"
  | openTimeout => "open_timeout_secs"
  | topic => "topic"
  | capacity => "channel_capacity"
  | contract .staking => "contract"
  | contract .tokenizer => "tokenizer"
  | contract .addressProvider => "address_provider"
  | contract .minter => "minter"
  | contract .tokenRegistry => "token_registry"
  | contract .rewardDistribution => "reward_distribution"
  | contract .collateralPool => "collateral_pool"
  | contract .debtPool => "debt_pool"
  | contract .priceOracleAggregate => "price_oracle_aggregate"
  | logLevel => "log_level"

/-- A configuration breaks the condition of a setting. -/
def Violated (config : Config) : Setting → Prop
  | endpoint => ¬ (config.rpc.url.endsWith ".ipc" ∨ ∃ url, Url.parse? config.rpc.url = some url ∧
      (url.scheme = .ws ∨ url.scheme = .wss))
  | callTimeout => config.rpc.callTimeout.toNat = 0
  | retryDelay => config.observer.retryDelay.toNat = 0
  | openTimeout => config.observer.openTimeout.toNat = 0
  | topic => ∀ character ∈ config.observer.topic.toList, Text.isBlank character
  | capacity => 2 ^ 20 < config.observer.capacity.toNat
  | contract which => (which.value config = "" → which = .staking) ∧
      ∀ address, Address.parse (which.value config) ≠ .ok address
  | logLevel => config.observability.logLevel.toLower ∉ ["trace", "debug", "info", "warn", "error"]

end Setting

/-- A place in a configuration is named by its section and its key. -/
def Section.path (part : Section) (key : String) : String := part.name ++ "." ++ key

namespace Setting

def path (setting : Setting) : String := setting.part.path setting.key

/-- This is reported about a setting, with its own name and its own value. -/
def blame (config : Config) (setting : Setting) : Problem :=
  match setting with
  | endpoint => .unsupportedEndpoint config.rpc.url
  | callTimeout | retryDelay | openTimeout => .zero setting.path
  | topic => .emptyTopic
  | capacity => .capacityTooLarge config.observer.capacity.toNat (2 ^ 20)
  | contract which => .invalidAddress setting.path (which.value config)
  | logLevel => .unknownLogLevel config.observability.logLevel

theorem blameField (config : Config) (setting : Setting) :
    (setting.blame config).field = setting.path := by
  cases setting <;> rfl

/-- Either the condition is broken and the problem is reported, or nothing is said. -/
inductive Verdict (violated : Prop) (blame : Problem) : Option Problem → Prop where
  | fit (holds : ¬ violated) : Verdict violated blame none
  | unfit (broken : violated) : Verdict violated blame (some blame)

theorem Verdict.ofIf {violated condition : Prop} [Decidable condition] {blame : Problem}
    (fits : condition ↔ ¬ violated) :
    Verdict violated blame (if condition then none else some blame) := by
  split
  case isTrue holds => exact .fit (fits.mp holds)
  case isFalse broken => exact .unfit (Classical.not_not.mp (mt fits.mpr broken))

theorem Verdict.ofIfNot {violated condition : Prop} [Decidable condition] {blame : Problem}
    (breaks : condition ↔ violated) :
    Verdict violated blame (if condition then some blame else none) := by
  split
  case isTrue broken => exact .unfit (breaks.mp broken)
  case isFalse holds => exact .fit (mt breaks.mpr holds)

theorem zeroVerdict (name : String) (value : UInt64) :
    Verdict (value.toNat = 0) (.zero name) (zero? name value) :=
  .ofIfNot UInt64.toNat_inj.symm

theorem endpointFits (url : String) : isPubsubEndpoint url ↔ url.endsWith ".ipc" ∨
    ∃ parsed, Url.parse? url = some parsed ∧ (parsed.scheme = .ws ∨ parsed.scheme = .wss) := by
  rw [isPubsubEndpoint]
  split
  case isTrue socket => simp [socket]
  case isFalse =>
    cases Url.parse? url <;> simp_all

theorem levelFits (level : String) :
    isLogLevel level ↔ level.toLower ∈ ["trace", "debug", "info", "warn", "error"] := by
  rw [isLogLevel, List.contains_iff_mem]
  exact Iff.rfl

theorem contractName (which : Contract) :
    which.name = (contract which).path := by
  cases which <;> rfl

theorem addressVerdict (which : Contract) (value : String) :
    Verdict ((value = "" → which = .staking) ∧ ∀ address, Address.parse value ≠ .ok address)
      (.invalidAddress which.name value) (address? which value) := by
  have optional : (value.isEmpty && !which.isRequired) = true ↔ value = "" ∧ which ≠ .staking := by
    simp [Contract.isRequired]
  rw [address?]
  split
  case isTrue skipped =>
    obtain ⟨empty, other⟩ := optional.mp skipped
    exact .fit fun broken => other (broken.1 empty)
  case isFalse needed =>
    cases Address.parse value with
    | ok address => exact .fit fun broken => broken.2 address rfl
    | error cause =>
        refine .unfit ⟨fun empty => ?_, fun address read => ?_⟩
        · exact Classical.byContradiction fun other => needed (optional.mpr ⟨empty, other⟩)
        · contradiction

theorem verdict (config : Config) (setting : Setting) :
    Verdict (setting.Violated config) (setting.blame config) (setting.problem? config) := by
  cases setting with
  | endpoint => exact .ofIf ((endpointFits _).trans Classical.not_not.symm)
  | callTimeout => exact zeroVerdict _ _
  | retryDelay => exact zeroVerdict _ _
  | openTimeout => exact zeroVerdict _ _
  | topic => exact .ofIfNot List.all_eq_true
  | capacity => exact .ofIfNot Iff.rfl
  | contract which =>
      have read := addressVerdict which (which.value config)
      rw [contractName] at read
      exact read
  | logLevel => exact .ofIf ((levelFits _).trans Classical.not_not.symm)

theorem Verdict.isSomeIff {violated : Prop} {blame : Problem} {outcome : Option Problem}
    (verdict : Verdict violated blame outcome) : outcome.isSome ↔ violated := by
  cases verdict with
  | fit holds => exact ⟨nofun, fun broken => absurd broken holds⟩
  | unfit broken => exact ⟨fun _ => broken, fun _ => rfl⟩

theorem Verdict.outcome {violated : Prop} [Decidable violated] {blame : Problem}
    {outcome : Option Problem} (verdict : Verdict violated blame outcome) :
    outcome = if violated then some blame else none := by
  cases verdict with
  | fit holds => rw [if_neg holds]
  | unfit broken => rw [if_pos broken]

theorem Verdict.dropped {violated : Prop} {blame : Problem} {outcome : Option Problem}
    {keeps : Problem → Bool} (verdict : Verdict violated blame outcome)
    (drops : keeps blame = false) : outcome.filter keeps = none := by
  cases verdict with
  | fit holds => rfl
  | unfit broken => simp [Option.filter, drops]

theorem Verdict.kept {violated : Prop} {blame : Problem} {outcome : Option Problem}
    {keeps : Problem → Bool} (verdict : Verdict violated blame outcome)
    (stays : keeps blame = true) : outcome.filter keeps = outcome := by
  cases verdict with
  | fit holds => rfl
  | unfit broken => simp [Option.filter, stays]

instance (config : Config) (setting : Setting) : Decidable (setting.Violated config) :=
  decidable_of_iff _ (setting.verdict config).isSomeIff

/-- The settings are checked in this order. -/
def paths : List String :=
  ["rpc.url", "rpc.call_timeout_secs", "observer.retry_delay_secs", "observer.open_timeout_secs",
    "observer.topic", "observer.channel_capacity", "sfc.contract", "sfc.tokenizer",
    "defi.address_provider", "defi.minter", "defi.token_registry", "defi.reward_distribution",
    "defi.collateral_pool", "defi.debt_pool", "defi.price_oracle_aggregate",
    "observability.log_level"]

theorem pathsOfAll : all.map path = paths := by
  decide

/-- What is said about a setting depends on its own field only. -/
theorem ownField {config other : Config} (setting : Setting)
    (same : ∀ field ∈ setting.part.fields, field.key = setting.key →
      field.get config = field.get other) :
    setting.problem? config = setting.problem? other := by
  cases setting with
  | contract which =>
      cases which <;> simp_all [part, key, Section.fields, problem?, Contract.value]
  | _ => simp_all [part, key, Section.fields, problem?]

/-- The text of a contract stands in its own field. -/
theorem contractText (config : Config) (which : Contract) :
    ∀ field ∈ (contract which).part.fields, field.key = (contract which).key →
      field.kind.json (field.get config) = .text (which.value config) := by
  cases which <;> simp [part, key, Section.fields, Kind.json, Contract.value]

theorem standardFits (setting : Setting) : setting.problem? {} = none :=
  fits (by decide +kernel) setting

end Setting

/-- The problems are those of the settings whose conditions are broken. -/
theorem problemsListed (config : Config) : config.problems =
    (Setting.all.filter (Setting.Violated config)).map (Setting.blame config) := by
  rw [← List.filterMap_eq_map, List.filterMap_filter, problems]
  congr 1
  funext setting
  simp [(setting.verdict config).outcome]

theorem problemsNone (config : Config) :
    config.problems = [] ↔ ∀ setting : Setting, ¬ setting.Violated config := by
  rw [problemsListed, List.map_eq_nil_iff, List.filter_eq_nil_iff]
  exact ⟨fun none setting => by simpa using none setting setting.memAll,
    fun none setting _ => by simpa using none setting⟩

theorem fieldsListed (config : Config) : config.problems.map Problem.field =
    (Setting.all.filter (Setting.Violated config)).map Setting.path := by
  rw [problemsListed, List.map_map]
  exact congrArg (List.map · _) (funext (Setting.blameField config))

/-- No field is blamed twice, so no problem comes twice. -/
theorem problemsDistinct (config : Config) : config.problems.Nodup := by
  have paths : (Setting.all.map Setting.path).Nodup := by
    rw [Setting.pathsOfAll]
    decide
  refine .of_map Problem.field ?_
  rw [fieldsListed]
  exact paths.sublist (List.filter_sublist.map _)

/-- Whoever has no problem is accepted, and all problems are handed out together. -/
theorem checkedIff (config : Config) :
    (config.checked = .ok config ↔ config.problems = []) ∧
    (config.problems ≠ [] → config.checked = .error (.invalid config.problems)) := by
  rw [checked]
  cases config.problems with
  | nil => exact ⟨⟨fun _ => rfl, fun _ => rfl⟩, fun nonempty => absurd rfl nonempty⟩
  | cons problem rest =>
      refine ⟨⟨fun accepted => ?_, fun none => ?_⟩, fun _ => rfl⟩ <;> contradiction

/-- One configuration is another one with the default in one place. -/
structure Resets (part : Section) (key : String) (config other : Config) : Prop where
  standard : ∀ field ∈ part.fields, field.key = key → field.get other = field.get {}
  kept : ∀ place : Section, ∀ field ∈ place.fields, ¬ (place = part ∧ field.key = key) →
    field.get other = field.get config

/-- This place gets its default, and all others keep their values. -/
def reset (part : Section) (key : String) (config : Config) : Config :=
  let pick {A : Type} (place : Section) (name : String) (get : Config → A) : A :=
    if place = part ∧ name = key then get {} else get config
  {
    rpc := {
      url := pick .rpc "url" (·.rpc.url)
      callTimeout := pick .rpc "call_timeout_secs" (·.rpc.callTimeout) }
    observer := {
      enabled := pick .observer "enabled" (·.observer.enabled)
      topic := pick .observer "topic" (·.observer.topic)
      retryDelay := pick .observer "retry_delay_secs" (·.observer.retryDelay)
      openTimeout := pick .observer "open_timeout_secs" (·.observer.openTimeout)
      capacity := pick .observer "channel_capacity" (·.observer.capacity) }
    staking := {
      contract := pick .staking "contract" (·.staking.contract)
      tokenizer := pick .staking "tokenizer" (·.staking.tokenizer) }
    defi := {
      addressProvider := pick .defi "address_provider" (·.defi.addressProvider)
      minter := pick .defi "minter" (·.defi.minter)
      tokenRegistry := pick .defi "token_registry" (·.defi.tokenRegistry)
      rewardDistribution := pick .defi "reward_distribution" (·.defi.rewardDistribution)
      collateralPool := pick .defi "collateral_pool" (·.defi.collateralPool)
      debtPool := pick .defi "debt_pool" (·.defi.debtPool)
      priceOracleAggregate := pick .defi "price_oracle_aggregate" (·.defi.priceOracleAggregate) }
    observability := {
      logLevel := pick .observability "log_level" (·.observability.logLevel)
      jsonLogs := pick .observability "json_logs" (·.observability.jsonLogs)
      metricsEnabled := pick .observability "metrics_enabled" (·.observability.metricsEnabled)
      metricsAddress := pick .observability "metrics_address" (·.observability.metricsAddress) }
    lifecycle := {
      shutdownTimeout := pick .lifecycle "shutdown_timeout_secs" (·.lifecycle.shutdownTimeout) } }

/-- Every field of the new configuration is picked on its own. -/
theorem getReset (part : Section) (key : String) (config : Config) (place : Section) :
    ∀ field ∈ place.fields, field.get (config.reset part key) =
      if place = part ∧ field.key = key then field.get {} else field.get config := by
  cases place <;> simp [Section.fields, reset]

theorem resets (part : Section) (key : String) (config : Config) :
    Resets part key config (config.reset part key) where
  standard field known same := by
    rw [getReset part key config part field known, if_pos ⟨rfl, same⟩]
  kept place field known other := by
    rw [getReset part key config place field known, if_neg other]

theorem Section.dotless (part : Section) : '.' ∉ part.name.toList := by
  cases part <;> decide

/-- The name of a section ends at the first dot. -/
theorem Section.pathInjective {part other : Section} {key name : String}
    (same : part.path key = other.path name) : part = other ∧ key = name := by
  have characters : part.name.toList ++ '.' :: key.toList =
      other.name.toList ++ '.' :: name.toList := by
    simpa [path] using congrArg String.toList same
  have beforeDot (place : Section) (rest : List Char) :
      (place.name.toList ++ '.' :: rest).takeWhile (· ≠ '.') = place.name.toList := by
    rw [List.takeWhile_append_of_pos, List.takeWhile_cons_of_neg (by simp), List.append_nil]
    intro character member
    have noDot : character ≠ '.' := fun dot => place.dotless (dot ▸ member)
    simpa using noDot
  have names : part.name = other.name := by
    rw [← String.toList_inj, ← beforeDot part key.toList, characters, beforeDot]
  obtain rfl := nameInjective names
  rw [List.append_cancel_left_eq, List.cons.injEq, String.toList_inj] at characters
  exact ⟨rfl, characters.2⟩

/-- A default removes the problem of its own setting and no other. -/
theorem Resets.problem {part : Section} {key : String} {config other : Config}
    (resets : Resets part key config other) (setting : Setting) :
    setting.problem? other =
      (setting.problem? config).filter fun problem => problem.field ≠ part.path key := by
  have verdict := setting.verdict config
  by_cases own : setting.part = part ∧ setting.key = key
  · obtain ⟨rfl, rfl⟩ := own
    have standard : setting.problem? other = none :=
      (setting.ownField resets.standard).trans setting.standardFits
    rw [standard, verdict.dropped]
    simp [Setting.blameField, Setting.path]
  · have elsewhere : setting.path ≠ part.path key :=
      fun same => own (Section.pathInjective same)
    rw [verdict.kept (by simpa [Setting.blameField] using elsewhere)]
    exact setting.ownField fun field known same =>
      resets.kept setting.part field known fun place => own ⟨place.1, same.symm.trans place.2⟩

theorem Resets.problems {part : Section} {key : String} {config other : Config}
    (resets : Resets part key config other) :
    other.problems = config.problems.filter fun problem => problem.field ≠ part.path key := by
  rw [Config.problems, Config.problems, List.filter_filterMap, funext resets.problem]

/-- Every setting is checked under its own name and by its own value. -/
structure Independent (config : Config) : Prop where
  ordered : Setting.all.map Setting.path = Setting.paths
  /-- One problem is reported for each condition that is broken. -/
  listed : config.problems =
    (Setting.all.filter (Setting.Violated config)).map (Setting.blame config)
  /-- The text that is shown for a contract is the one of its own field. -/
  texts : ∀ which : Contract, ∀ field ∈ (Setting.contract which).part.fields,
    field.key = (Setting.contract which).key →
      field.kind.json (field.get config) = .text (which.value config)
  named : config.problems.map Problem.field =
    (Setting.all.filter (Setting.Violated config)).map Setting.path
  distinct : config.problems.Nodup
  accepted : config.checked = .ok config ↔ ∀ setting : Setting, ¬ setting.Violated config
  refused : ∀ setting : Setting, setting.Violated config →
    config.checked = .error (.invalid config.problems)
  /-- A default in one place removes what is said about this place and nothing else. -/
  reset : ∀ (part : Section) (key : String), Resets part key config (config.reset part key) ∧
    (config.reset part key).problems =
      config.problems.filter fun problem => problem.field ≠ part.path key

/-- Every problem is reported once, under its own name, and apart from all others. -/
theorem problemsAreIndependent (config : Config) : Independent config where
  ordered := Setting.pathsOfAll
  listed := problemsListed config
  texts := Setting.contractText config
  named := fieldsListed config
  distinct := problemsDistinct config
  accepted := (checkedIff config).1.trans (problemsNone config)
  refused setting broken := (checkedIff config).2 fun none =>
    (problemsNone config).mp none setting broken
  reset part key := ⟨resets part key config, (resets part key config).problems⟩

example :
    let config : Config :=
      { observer := { topic := " ", openTimeout := 0 }, defi := { minter := "0x" } }
    config.problems =
        [.zero "observer.open_timeout_secs", .emptyTopic, .invalidAddress "defi.minter" "0x"] ∧
      (config.reset .observer "topic").problems =
        [.zero "observer.open_timeout_secs", .invalidAddress "defi.minter" "0x"] := by
  decide +kernel

end NodeBridge.Config
