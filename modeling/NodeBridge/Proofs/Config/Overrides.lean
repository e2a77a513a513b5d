import NodeBridge.Config.Json
import NodeBridge.Config.Toml
import NodeBridge.Proofs.Entries

/-
This file shows what a configuration takes from a table and what from its defaults.
The sections and their fields are listed once, and every field is decided on its own: by the value
that the table gives for it, or by the default of its section.
-/

namespace NodeBridge.Config

/-- A field holds a text, a flag or a count. -/
inductive Kind where
  | text
  | flag
  | count

namespace Kind

abbrev Content : Kind → Type
  | text => String
  | flag => Bool
  | count => UInt64

variable {Value : Type}

def read? (format : Format Value) : (kind : Kind) → Value → Option kind.Content
  | text => format.text?
  | flag => format.flag?
  | count => format.count?

/-- JSON has one form for each content. -/
def json : (kind : Kind) → kind.Content → Json
  | text, content => .text content
  | flag, content => .boolean content
  | count, content => .ofCount content

/-- TOML too has one form for each content. -/
def toml : (kind : Kind) → kind.Content → Toml
  | text, content => .text content
  | flag, content => .boolean content
  | count, content => .integer content.toNat

theorem readJson {kind : Kind} {content : kind.Content} {value : Json} :
    kind.read? jsonFormat value = some content ↔ value = kind.json content := by
  cases kind with
  | text => cases value <;> simp [read?, jsonFormat, Json.text?, json]
  | flag => cases value <;> simp [read?, jsonFormat, Json.boolean?, json]
  | count =>
      refine ⟨fun read => ?_, fun written => ?_⟩
      · cases value with
        | integer number =>
            simp only [read?, jsonFormat, Json.count?] at read
            split at read
            case isTrue bounds =>
              obtain rfl := Option.some.inj read
              rw [json, Json.ofCount, UInt64.toNat_ofNat_of_lt' bounds.2,
                Int.toNat_of_nonneg bounds.1]
            case isFalse => contradiction
        | _ => contradiction
      · rw [written]
        exact Json.countOfCount content

theorem readToml {kind : Kind} {content : kind.Content} {value : Toml} :
    kind.read? tomlFormat value = some content ↔ value = kind.toml content := by
  cases kind with
  | text => cases value <;> simp [read?, tomlFormat, toml]
  | flag => cases value <;> simp [read?, tomlFormat, toml]
  | count =>
      refine ⟨fun read => ?_, fun written => ?_⟩
      · cases value with
        | integer number =>
            simp only [read?, tomlFormat, tomlCount?] at read
            split at read
            case isTrue bounds =>
              obtain rfl := Option.some.inj read
              rw [toml, UInt64.toNat_ofNat_of_lt' bounds.2, Int.toNat_of_nonneg bounds.1]
            case isFalse => contradiction
        | _ => contradiction
      · have bound : content.toNat < UInt64.size := content.toNat_lt
        simp [written, toml, read?, tomlFormat, tomlCount?, bound]

end Kind

/-- A field has a key in its section, and its content is a part of the configuration. -/
structure Field where
  key : String
  kind : Kind
  get : Config → kind.Content

/-- The root of a configuration has six sections and nothing else. -/
inductive Section where
  | rpc
  | observer
  | staking
  | defi
  | observability
  | lifecycle
  deriving DecidableEq

namespace Section

def name : Section → String
  | rpc => "rpc"
  | observer => "observer"
  | staking => "sfc"
  | defi => "defi"
  | observability => "observability"
  | lifecycle => "lifecycle"

/-- Each field belongs to one section. -/
def fields : Section → List Field
  | rpc => [
      ⟨"url", .text, (·.rpc.url)⟩,
      ⟨"call_timeout_secs", .count, (·.rpc.callTimeout)⟩]
  | observer => [
      ⟨"enabled", .flag, (·.observer.enabled)⟩,
      ⟨"topic", .text, (·.observer.topic)⟩,
      ⟨"retry_delay_secs", .count, (·.observer.retryDelay)⟩,
      ⟨"open_timeout_secs", .count, (·.observer.openTimeout)⟩,
      ⟨"channel_capacity", .count, (·.observer.capacity)⟩]
  | staking => [
      ⟨"contract", .text, (·.staking.contract)⟩,
      ⟨"tokenizer", .text, (·.staking.tokenizer)⟩]
  | defi => [
      ⟨"address_provider", .text, (·.defi.addressProvider)⟩,
      ⟨"minter", .text, (·.defi.minter)⟩,
      ⟨"token_registry", .text, (·.defi.tokenRegistry)⟩,
      ⟨"reward_distribution", .text, (·.defi.rewardDistribution)⟩,
      ⟨"collateral_pool", .text, (·.defi.collateralPool)⟩,
      ⟨"debt_pool", .text, (·.defi.debtPool)⟩,
      ⟨"price_oracle_aggregate", .text, (·.defi.priceOracleAggregate)⟩]
  | observability => [
      ⟨"log_level", .text, (·.observability.logLevel)⟩,
      ⟨"json_logs", .flag, (·.observability.jsonLogs)⟩,
      ⟨"metrics_enabled", .flag, (·.observability.metricsEnabled)⟩,
      ⟨"metrics_address", .text, (·.observability.metricsAddress)⟩]
  | lifecycle => [
      ⟨"shutdown_timeout_secs", .count, (·.lifecycle.shutdownTimeout)⟩]

end Section

variable {Value : Type} {format : Format Value}

/-- Each field takes what an entry of the section gives for it, or else its default. -/
def Field.Takes (format : Format Value) (field : Field) (config : Config) : Option Value → Prop
  | none => field.get config = field.get {}
  | some value => field.kind.read? format value = some (field.get config)

/-- A member of this name is read in the place of the default. -/
def overridden {A : Type} (members : List (String × Value)) (name : String)
    (reader : Value → Option A) (default : A) : Option A :=
  match Entries.named? name members with
  | none => some default
  | some value => reader value

/-- Members with names can stand anywhere. -/
theorem readNamed {A : Type} (members : List (String × Value)) (position : Nat) (name : String)
    (reader : Value → Option A) (default : A) :
    (Entries.named members).read position name reader default =
      overridden members name reader default := rfl

theorem overriddenIff {A : Type} {members : List (String × Value)} {name : String}
    {reader : Value → Option A} {default content : A} :
    overridden members name reader default = some content ↔
      match Entries.named? name members with
      | none => content = default
      | some value => reader value = some content := by
  rw [overridden]
  cases Entries.named? name members with
  | none => exact ⟨fun same => (Option.some.inj same).symm, fun same => congrArg some same.symm⟩
  | some value => exact Iff.rfl

theorem takesIff {field : Field} {config : Config} {members : List (String × Value)} :
    field.Takes format config (Entries.named? field.key members) ↔
      overridden members field.key (field.kind.read? format) (field.get {}) =
        some (field.get config) := by
  rw [overriddenIff]
  cases Entries.named? field.key members <;> exact Iff.rfl

/-- A value is a table with these members, whatever is asked of it. -/
def Format.IsTable (format : Format Value) (value : Value) (members : List (String × Value)) :
    Prop := ∀ width, format.entries? width value = some (.named members)

namespace Section

/-- A section is read from a value into its part of a configuration. -/
def ReadAs (format : Format Value) (value : Value) (config : Config) : Section → Prop
  | rpc => format.rpc? value = some config.rpc
  | observer => format.observer? value = some config.observer
  | staking => format.staking? value = some config.staking
  | defi => format.defi? value = some config.defi
  | observability => format.observability? value = some config.observability
  | lifecycle => format.lifecycle? value = some config.lifecycle

/-- A section that is missing leaves all its defaults. -/
def Standard (config : Config) : Section → Prop
  | rpc => config.rpc = {}
  | observer => config.observer = {}
  | staking => config.staking = {}
  | defi => config.defi = {}
  | observability => config.observability = {}
  | lifecycle => config.lifecycle = {}

theorem standardIff {part : Section} {config : Config} :
    part.Standard config ↔ ∀ field ∈ part.fields, field.get config = field.get {} := by
  obtain ⟨⟨_, _⟩, ⟨_, _, _, _, _⟩, ⟨_, _⟩, ⟨_, _, _, _, _, _, _⟩, ⟨_, _, _, _⟩, ⟨_⟩⟩ := config
  cases part <;> simp [Standard, fields]

theorem readsFields {part : Section} {config : Config} {value : Value}
    {members : List (String × Value)} (table : format.IsTable value members) :
    part.ReadAs format value config ↔
      ∀ field ∈ part.fields, field.Takes format config (Entries.named? field.key members) := by
  obtain ⟨⟨_, _⟩, ⟨_, _, _, _, _⟩, ⟨_, _⟩, ⟨_, _, _, _, _, _, _⟩, ⟨_, _, _, _⟩, ⟨_⟩⟩ := config
  cases part <;>
    simp [ReadAs, fields, takesIff, table _, Format.rpc?, Format.observer?, Format.staking?,
      Format.defi?, Format.observability?, Format.lifecycle?, readNamed, Kind.read?,
      Option.bind_eq_some_iff, -Bool.exists_bool]

/-- A section whose fields can all be read is read. -/
theorem readable {part : Section} {value : Value} {members : List (String × Value)}
    (table : format.IsTable value members)
    (fit : ∀ field ∈ part.fields, ∃ content,
      overridden members field.key (field.kind.read? format) (field.get {}) = some content) :
    ∃ config, part.ReadAs format value config := by
  simp only [readsFields table, takesIff]
  cases part with
  | rpc =>
      simp only [fields, List.forall_mem_cons] at fit ⊢
      obtain ⟨⟨url, first⟩, ⟨callTimeout, second⟩, _⟩ := fit
      exact ⟨{ rpc := ⟨url, callTimeout⟩ }, first, second, nofun⟩
  | observer =>
      simp only [fields, List.forall_mem_cons] at fit ⊢
      obtain ⟨⟨enabled, first⟩, ⟨topic, second⟩, ⟨retryDelay, third⟩, ⟨openTimeout, fourth⟩,
        ⟨capacity, fifth⟩, _⟩ := fit
      exact ⟨{ observer := ⟨enabled, topic, retryDelay, openTimeout, capacity⟩ }, first, second,
        third, fourth, fifth, nofun⟩
  | staking =>
      simp only [fields, List.forall_mem_cons] at fit ⊢
      obtain ⟨⟨contract, first⟩, ⟨tokenizer, second⟩, _⟩ := fit
      exact ⟨{ staking := ⟨contract, tokenizer⟩ }, first, second, nofun⟩
  | defi =>
      simp only [fields, List.forall_mem_cons] at fit ⊢
      obtain ⟨⟨addressProvider, first⟩, ⟨minter, second⟩, ⟨tokenRegistry, third⟩,
        ⟨rewardDistribution, fourth⟩, ⟨collateralPool, fifth⟩, ⟨debtPool, sixth⟩,
        ⟨priceOracleAggregate, seventh⟩, _⟩ := fit
      exact ⟨{ defi := ⟨addressProvider, minter, tokenRegistry, rewardDistribution, collateralPool,
        debtPool, priceOracleAggregate⟩ }, first, second, third, fourth, fifth, sixth, seventh,
        nofun⟩
  | observability =>
      simp only [fields, List.forall_mem_cons] at fit ⊢
      obtain ⟨⟨logLevel, first⟩, ⟨jsonLogs, second⟩, ⟨metricsEnabled, third⟩,
        ⟨metricsAddress, fourth⟩, _⟩ := fit
      exact ⟨{ observability := ⟨logLevel, jsonLogs, metricsEnabled, metricsAddress⟩ }, first,
        second, third, fourth, nofun⟩
  | lifecycle =>
      simp only [fields, List.forall_mem_cons] at fit ⊢
      obtain ⟨⟨shutdownTimeout, first⟩, _⟩ := fit
      exact ⟨{ lifecycle := ⟨shutdownTimeout⟩ }, first, nofun⟩

/-- A section takes what a value says about it, or else all its defaults. -/
def Takes (format : Format Value) (part : Section) (config : Config) : Option Value → Prop
  | none => part.Standard config
  | some value => part.ReadAs format value config

/-- Every section is taken from a configuration of its own. -/
def merge (configs : Section → Config) : Config where
  rpc := (configs rpc).rpc
  observer := (configs observer).observer
  staking := (configs staking).staking
  defi := (configs defi).defi
  observability := (configs observability).observability
  lifecycle := (configs lifecycle).lifecycle

theorem takesMerge {part : Section} {configs : Section → Config} {entry : Option Value} :
    part.Takes format (merge configs) entry ↔ part.Takes format (configs part) entry := by
  cases part <;> cases entry <;> exact Iff.rfl

end Section

/-- A configuration is read section by section. -/
theorem readsSections {value : Value} {root : List (String × Value)} {config : Config}
    (table : format.IsTable value root) : format.config? value = some config ↔
      ∀ part : Section, part.Takes format config (Entries.named? part.name root) := by
  have whole : format.config? value = some config ↔
      overridden root "rpc" format.rpc? {} = some config.rpc ∧
      overridden root "observer" format.observer? {} = some config.observer ∧
      overridden root "sfc" format.staking? {} = some config.staking ∧
      overridden root "defi" format.defi? {} = some config.defi ∧
      overridden root "observability" format.observability? {} = some config.observability ∧
      overridden root "lifecycle" format.lifecycle? {} = some config.lifecycle := by
    obtain ⟨_, _, _, _, _, _⟩ := config
    simp [Format.config?, table _, readNamed, Option.bind_eq_some_iff]
  simp only [whole, overriddenIff]
  constructor
  · rintro ⟨rpc, observer, staking, defi, observability, lifecycle⟩ part
    cases part
    case rpc => exact rpc
    case observer => exact observer
    case staking => exact staking
    case defi => exact defi
    case observability => exact observability
    case lifecycle => exact lifecycle
  · intro takes
    exact ⟨takes .rpc, takes .observer, takes .staking, takes .defi, takes .observability,
      takes .lifecycle⟩

/-- In such a table no key comes twice, and the sections are such tables as well. -/
structure Tabular (format : Format Value) (root : List (String × Value)) : Prop where
  distinct : (root.map Prod.fst).Nodup
  sections : ∀ (part : Section) (value : Value), (part.name, value) ∈ root →
    ∃ members, format.IsTable value members ∧ (members.map Prod.fst).Nodup

/-- The table gives a value for a field of a section. -/
def Gives (format : Format Value) (root : List (String × Value)) (part : Section) (field : Field)
    (given : Value) : Prop :=
  ∃ value members, (part.name, value) ∈ root ∧ format.IsTable value members ∧
    (field.key, given) ∈ members

/-- This is the entry of a field, if the table has one. -/
def given? (format : Format Value) (root : List (String × Value)) (part : Section)
    (field : Field) : Option Value :=
  (Entries.named? part.name root).bind fun value =>
    match format.entries? 0 value with
    | some (.named members) => Entries.named? field.key members
    | _ => none

variable {root : List (String × Value)} {part : Section} {field : Field} {given : Value}
  {config : Config}

theorem givesIff (tabular : Tabular format root) :
    Gives format root part field given ↔ given? format root part field = some given := by
  rw [given?]
  constructor
  · rintro ⟨value, members, present, table, member⟩
    obtain ⟨others, same, distinct⟩ := tabular.sections part value present
    obtain rfl := Entries.named.inj (Option.some.inj ((table 0).symm.trans (same 0)))
    have found : Entries.named? part.name root = some value :=
      Entries.namedOfHolds tabular.distinct present
    rw [found, Option.bind_some, table 0]
    exact Entries.namedOfHolds distinct member
  · intro found
    obtain ⟨value, present, inside⟩ := Option.bind_eq_some_iff.mp found
    have member := Entries.holdsNamed root part.name
    rw [present] at member
    obtain ⟨members, table, _⟩ := tabular.sections part value member
    rw [table 0] at inside
    have entry := Entries.holdsNamed members field.key
    rw [show Entries.named? field.key members = some given from inside] at entry
    exact ⟨value, members, member, table, entry⟩

/-- A configuration is read field by field. -/
theorem readsEntries {wrap : List (String × Value) → Value}
    (table : ∀ members, format.IsTable (wrap members) members) (tabular : Tabular format root) :
    format.config? (wrap root) = some config ↔ ∀ part : Section, ∀ field ∈ part.fields,
      field.Takes format config (given? format root part field) := by
  rw [readsSections (table root)]
  refine forall_congr' fun part => ?_
  have present := Entries.holdsNamed root part.name
  cases found : Entries.named? part.name root with
  | none =>
      simp only [given?, found, Option.bind_none]
      exact Section.standardIff
  | some value =>
      rw [found] at present
      obtain ⟨members, inner, _⟩ := tabular.sections part value present
      simp only [given?, found, Option.bind_some, inner 0]
      exact Section.readsFields inner

/-- If every entry of a known field can be read, there is a configuration that was read. -/
theorem readsFit {wrap : List (String × Value) → Value}
    (table : ∀ members, format.IsTable (wrap members) members) (tabular : Tabular format root)
    (fit : ∀ part : Section, ∀ field ∈ part.fields, ∀ given,
      given? format root part field = some given →
        ∃ content, field.kind.read? format given = some content) :
    ∃ config, format.config? (wrap root) = some config := by
  have sections (part : Section) :
      ∃ config, part.Takes format config (Entries.named? part.name root) := by
    have present := Entries.holdsNamed root part.name
    cases found : Entries.named? part.name root with
    | none => exact ⟨{}, Section.standardIff.mpr fun _ _ => rfl⟩
    | some value =>
        rw [found] at present
        obtain ⟨members, inner, _⟩ := tabular.sections part value present
        refine Section.readable inner fun field known => ?_
        cases named : Entries.named? field.key members with
        | none => exact ⟨field.get {}, by rw [overridden, named]⟩
        | some given =>
            have entry : given? format root part field = some given := by
              simp only [given?, found, Option.bind_some, inner 0, named]
            obtain ⟨content, read⟩ := fit part field known given entry
            exact ⟨content, by rw [overridden, named]; exact read⟩
  -- Every section was read into a configuration of its own, and only its part of it counts.
  obtain ⟨configs, takes⟩ := Classical.skolem.mp sections
  exact ⟨Section.merge configs, (readsSections (table root)).mpr fun part =>
    Section.takesMerge.mpr (takes part)⟩

/-- What is read from a table is the default configuration with the fields that the table gives. -/
structure Overrides (format : Format Value) (wrap : List (String × Value) → Value) : Prop where
  /-- Fields that are given are replaced, and all others keep their defaults. -/
  replaces : ∀ root, Tabular format root →
    (∀ part : Section, ∀ field ∈ part.fields, ∀ given, Gives format root part field given →
      ∃ content, field.kind.read? format given = some content) →
    ∃ config, format.config? (wrap root) = some config ∧
      ∀ part : Section, ∀ field ∈ part.fields,
        (∀ given, Gives format root part field given →
          field.kind.read? format given = some (field.get config)) ∧
        ((∀ given, ¬ Gives format root part field given) → field.get config = field.get {})
  /-- A known field that cannot be read spoils the whole. -/
  spoils : ∀ root, Tabular format root → ∀ part : Section, ∀ field ∈ part.fields, ∀ given,
    Gives format root part field given → field.kind.read? format given = none →
      format.config? (wrap root) = none
  /-- Neither the order of the entries nor entries of other names play a part. -/
  ignores : ∀ root other, Tabular format root → Tabular format other →
    (∀ part : Section, ∀ field ∈ part.fields, ∀ given,
      Gives format root part field given ↔ Gives format other part field given) →
    format.config? (wrap root) = format.config? (wrap other)

/-- Every format whose tables are tables overrides the defaults. -/
theorem overrides {wrap : List (String × Value) → Value}
    (table : ∀ members, format.IsTable (wrap members) members) : Overrides format wrap := by
  refine ⟨fun root tabular fit => ?_, fun root tabular part field known given gives unfit => ?_,
    fun root other tabular otherTabular same => ?_⟩
  · obtain ⟨config, read⟩ := readsFit table tabular fun part field known given found =>
      fit part field known given ((givesIff tabular).mpr found)
    refine ⟨config, read, fun part field known => ?_⟩
    have takes := (readsEntries table tabular).mp read part field known
    refine ⟨fun given gives => ?_, fun absent => ?_⟩
    · rwa [(givesIff tabular).mp gives] at takes
    · cases found : given? format root part field with
      | some given => exact absurd ((givesIff tabular).mpr found) (absent given)
      | none => rwa [found] at takes
  · cases read : format.config? (wrap root) with
    | none => rfl
    | some config =>
        have takes := (readsEntries table tabular).mp read part field known
        rw [(givesIff tabular).mp gives] at takes
        exact absurd (unfit.symm.trans takes) nofun
  · have entries (part : Section) (field : Field) (known : field ∈ part.fields) :
        given? format root part field = given? format other part field := by
      refine Option.ext fun given => ?_
      rw [← givesIff tabular, ← givesIff otherTabular]
      exact same part field known given
    refine Option.ext fun config => ?_
    rw [readsEntries table tabular, readsEntries table otherTabular]
    refine forall_congr' fun part => forall_congr' fun field => forall_congr' fun known => ?_
    rw [entries part field known]

/-- There is nothing in a configuration but its fields. -/
theorem sameFields {config other : Config}
    (same : ∀ part : Section, ∀ field ∈ part.fields, field.get config = field.get other) :
    config = other := by
  obtain ⟨⟨_, _⟩, ⟨_, _, _, _, _⟩, ⟨_, _⟩, ⟨_, _, _, _, _, _, _⟩, ⟨_, _, _, _⟩, ⟨_⟩⟩ := config
  obtain ⟨⟨_, _⟩, ⟨_, _, _, _, _⟩, ⟨_, _⟩, ⟨_, _, _, _, _, _, _⟩, ⟨_, _, _, _⟩, ⟨_⟩⟩ := other
  have rpc := same .rpc
  have observer := same .observer
  have staking := same .staking
  have defi := same .defi
  have observability := same .observability
  have lifecycle := same .lifecycle
  simp only [Section.fields, List.forall_mem_cons]
    at rpc observer staking defi observability lifecycle
  obtain ⟨rfl, rfl, _⟩ := rpc
  obtain ⟨rfl, rfl, rfl, rfl, rfl, _⟩ := observer
  obtain ⟨rfl, rfl, _⟩ := staking
  obtain ⟨rfl, rfl, rfl, rfl, rfl, rfl, rfl, _⟩ := defi
  obtain ⟨rfl, rfl, rfl, rfl, _⟩ := observability
  obtain ⟨rfl, _⟩ := lifecycle
  rfl

namespace Section

def all : List Section := [rpc, observer, staking, defi, observability, lifecycle]

/-- The written form of a section has all its fields. -/
def written (config : Config) (part : Section) : List (String × Json) :=
  part.fields.map fun field => (field.key, field.kind.json (field.get config))

theorem nameInjective {part other : Section} (same : part.name = other.name) : part = other := by
  cases part <;> cases other <;> first | rfl | simp [name] at same

theorem keysDistinct (part : Section) : (part.fields.map Field.key).Nodup := by
  cases part <;> decide

end Section

theorem toJsonSections (config : Config) : config.toJson =
    .object (Section.all.map fun part => (part.name, .object (part.written config))) := rfl

/-- These members are a part of what is written for a configuration, in any order. -/
structure PartOf (config : Config) (root : List (String × Json)) : Prop where
  distinct : (root.map Prod.fst).Nodup
  chosen : ∀ name value, (name, value) ∈ root → ∃ part : Section, name = part.name ∧
    ∃ members, value = .object members ∧ (members.map Prod.fst).Nodup ∧
      members ⊆ part.written config

theorem tableJson (members : List (String × Json)) :
    jsonFormat.IsTable (.object members) members := fun _ => rfl

theorem tableToml (origin : Toml.Origin) (members : List (String × Toml)) :
    tomlFormat.IsTable (.table origin members) members := fun _ => rfl

namespace PartOf

variable {root : List (String × Json)} {part : Section} {field : Field} {given : Json}
  {config : Config}

theorem tabular (chosen : PartOf config root) : Tabular jsonFormat root := by
  refine ⟨chosen.distinct, fun part value member => ?_⟩
  obtain ⟨_, _, members, rfl, distinct, _⟩ := chosen.chosen _ value member
  exact ⟨members, tableJson members, distinct⟩

/-- What is given for a field is what was written for it. -/
theorem asWritten (chosen : PartOf config root) (known : field ∈ part.fields)
    (gives : Gives jsonFormat root part field given) :
    given = field.kind.json (field.get config) := by
  obtain ⟨value, members, present, table, member⟩ := gives
  obtain ⟨other, named, others, rfl, _, written⟩ := chosen.chosen _ value present
  obtain rfl := Section.nameInjective named
  obtain rfl := Entries.named.inj (Option.some.inj ((table 0).symm.trans (tableJson others 0)))
  obtain ⟨same, knownToo, equal⟩ := List.mem_map.mp (written member)
  obtain ⟨key, rfl⟩ := Prod.mk.inj equal
  rw [List.inj_on_of_nodup_map part.keysDistinct knownToo known key]

/-- A part of what is written gives its fields back and leaves the defaults elsewhere. -/
theorem reads (chosen : PartOf config root) : ∃ result, ofJson? (.object root) = some result ∧
    ∀ part : Section, ∀ field ∈ part.fields,
      (∀ given, Gives jsonFormat root part field given → field.get result = field.get config) ∧
      ((∀ given, ¬ Gives jsonFormat root part field given) → field.get result = field.get {}) := by
  obtain ⟨result, read, replaced⟩ := (overrides tableJson).replaces root chosen.tabular
    fun part field known given gives => ⟨_, Kind.readJson.mpr (chosen.asWritten known gives)⟩
  refine ⟨result, read, fun part field known => ?_⟩
  obtain ⟨taken, left⟩ := replaced part field known
  refine ⟨fun given gives => ?_, left⟩
  have content := Kind.readJson.mpr (chosen.asWritten known gives)
  exact Option.some.inj ((taken given gives).symm.trans content)

end PartOf

/-- A configuration is read back from its written form. -/
theorem ofJsonToJson (config : Config) : ofJson? config.toJson = some config := by
  have whole : PartOf config
      (Section.all.map fun part => (part.name, .object (part.written config))) := by
    have names : (Section.all.map Section.name).Nodup := by decide
    refine ⟨by rwa [List.map_map], fun name value member => ?_⟩
    obtain ⟨part, _, equal⟩ := List.mem_map.mp member
    obtain ⟨rfl, rfl⟩ := Prod.mk.inj equal
    refine ⟨part, rfl, _, rfl, ?_, List.Subset.refl _⟩
    rw [Section.written, List.map_map]
    exact part.keysDistinct
  obtain ⟨result, read, replaced⟩ := whole.reads
  rw [toJsonSections, read]
  refine congrArg some (sameFields fun part field known => ?_)
  have member : part ∈ Section.all := by cases part <;> decide
  exact (replaced part field known).1 (field.kind.json (field.get config))
    ⟨_, _, List.mem_map_of_mem member, tableJson _, List.mem_map_of_mem known⟩

/-- What is read from a table in either format is the default with the fields that the table gives,
and so every part of a written configuration gives back what it lists. -/
theorem readingIsOverriding :
    Overrides jsonFormat Json.object ∧ (∀ origin, Overrides tomlFormat (Toml.table origin)) ∧
    (∀ (kind : Kind) (content : kind.Content) (value : Json),
      kind.read? jsonFormat value = some content ↔ value = kind.json content) ∧
    (∀ (kind : Kind) (content : kind.Content) (value : Toml),
      kind.read? tomlFormat value = some content ↔ value = kind.toml content) ∧
    (∀ source members, Toml.parse? source = some members →
      ofToml? source = tomlFormat.config? (.table .header members)) ∧
    (∀ config other : Config, (∀ part : Section, ∀ field ∈ part.fields,
      field.get config = field.get other) → config = other) ∧
    (∀ config : Config, ofJson? config.toJson = some config) ∧
    ∀ (config : Config) (root : List (String × Json)), PartOf config root →
      ∃ result, ofJson? (.object root) = some result ∧
        ∀ part : Section, ∀ field ∈ part.fields,
          (∀ given, Gives jsonFormat root part field given →
            field.get result = field.get config) ∧
          ((∀ given, ¬ Gives jsonFormat root part field given) →
            field.get result = field.get {}) := by
  refine ⟨overrides tableJson, fun origin => overrides (tableToml origin),
    fun _ _ _ => Kind.readJson, fun _ _ _ => Kind.readToml, fun source members parsed => ?_,
    fun _ _ => sameFields, ofJsonToJson, fun _ _ chosen => chosen.reads⟩
  rw [ofToml?, parsed]
  rfl

/-- This table gives one field of a section and some entries that nobody knows. -/
def patch (capacity : Json) : List (String × Json) := [
  ("notes", .list []),
  ("observer", .object [("colour", .null), ("channel_capacity", capacity)])]

theorem tabularPatch (capacity : Json) : Tabular jsonFormat (patch capacity) := by
  refine ⟨by simp [patch], fun part value member => ?_⟩
  cases part <;> simp [patch, Section.name] at member
  exact ⟨_, member ▸ tableJson _, by simp⟩

def capacityField : Field := ⟨"channel_capacity", .count, (·.observer.capacity)⟩

def openTimeoutField : Field := ⟨"open_timeout_secs", .count, (·.observer.openTimeout)⟩

/-- The section keeps its other defaults, and a capacity of the wrong kind spoils the whole. -/
theorem readingIsOverridingPatched :
    (∃ config, ofJson? (.object (patch (.integer 0))) = some config ∧
      config.observer.capacity = 0 ∧ config.observer.openTimeout = 10) ∧
    ofJson? (.object (patch (.text "none"))) = none := by
  have tabular := tabularPatch
  obtain ⟨overrides, _⟩ := readingIsOverriding
  have known : ∀ field ∈ [capacityField, openTimeoutField], field ∈ Section.observer.fields := by
    simp [Section.fields, capacityField, openTimeoutField]
  have fit (part : Section) (field : Field) (known : field ∈ part.fields) (given : Json)
      (gives : Gives jsonFormat (patch (.integer 0)) part field given) :
      ∃ content, field.kind.read? jsonFormat given = some content := by
    rw [givesIff (tabular _)] at gives
    cases part with
    | observer =>
        simp only [Section.fields, List.mem_cons, List.not_mem_nil, or_false] at known
        rcases known with rfl | rfl | rfl | rfl | rfl
        case inr.inr.inr.inr =>
          obtain rfl : Json.integer 0 = given := Option.some.inj gives
          exact ⟨0, rfl⟩
        all_goals contradiction
    | _ => exact nomatch (show none = some given from gives)
  constructor
  · obtain ⟨config, read, replaced⟩ := overrides.replaces (patch (.integer 0)) (tabular _) fit
    have taken := (replaced .observer capacityField (known _ (by simp))).1 (.integer 0)
      ((givesIff (tabular _)).mpr rfl)
    have left := (replaced .observer openTimeoutField (known _ (by simp))).2 fun given gives => by
      rw [givesIff (tabular _)] at gives
      contradiction
    exact ⟨config, read, (Option.some.inj taken).symm, left⟩
  · exact overrides.spoils (patch (.text "none")) (tabular _) .observer capacityField
      (known _ (by simp)) (.text "none") ((givesIff (tabular _)).mpr rfl) rfl

end NodeBridge.Config
