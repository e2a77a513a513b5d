import NodeBridge.Proofs.Entries
import NodeBridge.Proofs.Numeral
import NodeBridge.Staking.RecordJson

/-
This file shows that the staking records survive their JSON form.
The fields of a record are listed once with what they contain, and the list tells how the record
is written and which values spell it.
-/

namespace NodeBridge.Staking

variable {Record : Type} {record : Record} {value : Json}

/-- A word is spelled as a number or as a text. -/
inductive SpellsWord (word : Word) : Json → Prop
  | number : SpellsWord word (.integer word.toNat)
  | text {source : String} (spelled : word.Spelled source) : SpellsWord word (.text source)

/-- An address is spelled as a text or as its twenty bytes. -/
inductive SpellsAddress (address : Address) : Json → Prop
  | text {source : String} (spelled : address.Spelled source) : SpellsAddress address (.text source)
  | bytes : SpellsAddress address (.list (address.bytes.map fun byte => .integer byte.toNat))

/-- A field contains one of five kinds of values. -/
inductive Content (Record : Type) where
  | count (get : Record → UInt64)
  | word (get : Record → Word)
  | address (get : Record → Address)
  | optional (get : Record → Option Address)
  | small (get : Record → Int32)

structure Field (Record : Type) where
  name : String
  content : Content Record

namespace Content

/-- This is how the content of a field is written. -/
def write (record : Record) : Content Record → Json
  | count get => .ofCount (get record)
  | word get => wordToJson (get record)
  | address get => addressToJson (get record)
  | optional get => optionalAddressToJson (get record)
  | small get => .integer (get record).toInt

/-- An entry spells the content of a field, and an address that is not set needs no entry. -/
def Spelled (record : Record) (entry : Option Json) : Content Record → Prop
  | count get => entry = some (.ofCount (get record))
  | word get => ∃ value, entry = some value ∧ SpellsWord (get record) value
  | address get => ∃ value, entry = some value ∧ SpellsAddress (get record) value
  | optional get =>
      match get record with
      | none => entry = none ∨ entry = some .null
      | some known => ∃ value, entry = some value ∧ SpellsAddress known value
  | small get => entry = some (.integer (get record).toInt)

/-- The content of a field is read from the entries of a record. -/
def ReadFrom (record : Record) (entries : Entries Json) (position : Nat) (name : String) :
    Content Record → Prop
  | count get => entries.require position name Json.count? = some (get record)
  | word get => entries.require position name wordOfJson? = some (get record)
  | address get => entries.require position name addressOfJson? = some (get record)
  | optional get => entries.read position name optionalAddressOfJson? none = some (get record)
  | small get => entries.require position name smallOfJson? = some (get record)

end Content

/-- These values spell a record: an object with an entry for each field and any other entries, or
a list with the fields in their order. -/
inductive Spells (fields : List (Field Record)) (record : Record) : Json → Prop
  | object {members : List (String × Json)} (distinct : (members.map Prod.fst).Nodup)
      (filled : ∀ field ∈ fields, ∃ entry, Entries.Holds members field.name entry ∧
        field.content.Spelled record entry) : Spells fields record (.object members)
  | list {items : List Json} (width : items.length = fields.length)
      (filled : ∀ (position : Nat) (field : Field Record), fields[position]? = some field →
        field.content.Spelled record items[position]?) : Spells fields record (.list items)

theorem wordOfSpelled {word : Word} (spelled : SpellsWord word value) :
    wordOfJson? value = some word := by
  cases spelled with
  | number => simp [wordOfJson?]
  | text spelled => exact Word.ofTextSpelled spelled

theorem addressOfSpelled {address : Address} (spelled : SpellsAddress address value) :
    addressOfJson? value = some address := by
  cases spelled with
  | text spelled => rw [addressOfJson?, Address.ofText?, Address.parseSpelled spelled]; rfl
  | bytes =>
      have byte (byte : UInt8) : Json.byte? (.integer byte.toNat) = some byte := by
        have bound := byte.toNat_lt
        rw [Json.byte?, if_pos (by omega)]
        simp
      have listed (bytes : List UInt8) :
          (bytes.map fun byte => Json.integer byte.toNat).mapM Json.byte? = some bytes := by
        induction bytes with
        | nil => rfl
        | cons first rest inductionHypothesis => simp [byte, inductionHypothesis]
      simp [addressOfJson?, listed, Address.ofBytesBytes]

theorem optionalOfSpelled {address : Address} (spelled : SpellsAddress address value) :
    optionalAddressOfJson? value = some (some address) := by
  have read := addressOfSpelled spelled
  cases spelled <;> rw [optionalAddressOfJson?.eq_2 _ (by simp), read] <;> rfl

theorem smallOfInt (number : Int32) : smallOfJson? (.integer number.toInt) = some number := by
  rw [smallOfJson?, if_pos ⟨number.minValue_le_toInt, number.toInt_le⟩, Int32.ofInt_toInt]

variable {entries : Entries Json} {position : Nat} {name : String}

/-- What is spelled by its entry is read from it. -/
theorem Content.readOfSpelled {content : Content Record}
    (spelled : content.Spelled record (entries.find? position name)) :
    content.ReadFrom record entries position name := by
  cases content with
  | count get =>
      rw [ReadFrom, Entries.require, show entries.find? position name = _ from spelled]
      exact Json.countOfCount _
  | word get =>
      obtain ⟨value, found, spelled⟩ := spelled
      rw [ReadFrom, Entries.require, found]
      exact wordOfSpelled spelled
  | address get =>
      obtain ⟨value, found, spelled⟩ := spelled
      rw [ReadFrom, Entries.require, found]
      exact addressOfSpelled spelled
  | small get =>
      rw [ReadFrom, Entries.require, show entries.find? position name = _ from spelled]
      exact smallOfInt _
  | optional get =>
      rw [Spelled] at spelled
      rw [ReadFrom, Entries.read]
      cases held : get record with
      | none =>
          rw [held] at spelled
          rcases spelled with missing | null
          · rw [missing]
          · rw [null]
            rfl
      | some known =>
          rw [held] at spelled
          obtain ⟨value, found, spelled⟩ := spelled
          rw [found]
          exact optionalOfSpelled spelled

/-- Every field is read from the entries, beginning with some position. -/
def Filled (record : Record) (entries : Entries Json) : Nat → List (Field Record) → Prop
  | _, [] => True
  | position, field :: rest =>
      field.content.ReadFrom record entries position field.name ∧
        Filled record entries (position + 1) rest

theorem filledOfSpelled {fields : List (Field Record)}
    (spelled : ∀ (index : Nat) (field : Field Record), fields[index]? = some field →
      field.content.Spelled record (entries.find? (position + index) field.name)) :
    Filled record entries position fields := by
  induction fields generalizing position with
  | nil => exact trivial
  | cons field rest inductionHypothesis =>
      refine ⟨Content.readOfSpelled (spelled 0 field rfl), inductionHypothesis ?_⟩
      intro index other found
      have later := spelled (index + 1) other found
      rwa [show position + (index + 1) = position + 1 + index by omega] at later

/-- What is written spells the content of its field. -/
theorem Content.writeSpelled (content : Content Record) :
    content.Spelled record (some (content.write record)) := by
  cases content with
  | count get => rfl
  | word get => exact ⟨_, rfl, .text (Word.hexSpelled _)⟩
  | address get => exact ⟨_, rfl, .text (Address.hexSpelled _)⟩
  | small get => rfl
  | optional get =>
      rw [Spelled, write]
      cases get record with
      | none => exact .inr rfl
      | some known => exact ⟨_, rfl, .text (Address.hexSpelled known)⟩

/-- The JSON form of a record is one of its spellings, every spelling is read as the record, and
so reading undoes writing. -/
structure Faithful (toJson : Record → Json) (ofJson? : Json → Option Record)
    (fields : List (Field Record)) : Prop where
  /-- A record that is written and read again is the same. -/
  returns : ∀ record, ofJson? (toJson record) = some record
  /-- Whatever was read can be written and read again. -/
  settles : ∀ value record, ofJson? value = some record → ofJson? (toJson record) = some record
  /-- All spellings of a record are read as this record and give the same output. -/
  unites : ∀ value record, Spells fields record value →
    ofJson? value = some record ∧ (ofJson? value).map toJson = some (toJson record)

/-- A record is faithful if it is written and read field by field. -/
theorem Faithful.ofFields {toJson : Record → Json} {ofJson? : Json → Option Record}
    {fields : List (Field Record)} (distinct : (fields.map Field.name).Nodup)
    (writes : ∀ record, toJson record =
      .object (fields.map fun field => (field.name, field.content.write record)))
    (reads : ∀ value entries record, recordEntries? fields.length value = some entries →
      Filled record entries 0 fields → ofJson? value = some record) :
    Faithful toJson ofJson? fields := by
  have spells (value : Json) (record : Record) (spelled : Spells fields record value) :
      ofJson? value = some record := by
    cases spelled with
    | object distinct filled =>
        refine reads _ _ record rfl (filledOfSpelled fun index field found => ?_)
        obtain ⟨entry, holds, spelled⟩ := filled field (List.mem_of_getElem? found)
        rw [Entries.find?, Entries.namedOfHolds distinct holds]
        exact spelled
    | list width filled =>
        refine reads _ _ record (if_pos width) (filledOfSpelled fun index field found => ?_)
        rw [Entries.find?, Nat.zero_add]
        exact filled index field found
  have returns (record : Record) : ofJson? (toJson record) = some record := by
    refine spells _ record ?_
    rw [writes]
    refine .object ?_ fun field member =>
      ⟨some (field.content.write record), ?_, field.content.writeSpelled⟩
    · rwa [List.map_map]
    · exact List.mem_map_of_mem member
  refine ⟨returns, fun _ record _ => returns record, fun value record spelled => ?_⟩
  have read := spells value record spelled
  exact ⟨read, by rw [read]; rfl⟩

/-- The fields stand in the order of the record, under the names of its JSON form. -/
def Epoch.fields : List (Field Epoch) := [
  ⟨"id", .count (·.id)⟩,
  ⟨"endTime", .count (·.endTime)⟩,
  ⟨"epochFee", .word (·.epochFee)⟩,
  ⟨"totalBaseRewardWeight", .word (·.totalBaseRewardWeight)⟩,
  ⟨"totalTxRewardWeight", .word (·.totalTxRewardWeight)⟩,
  ⟨"baseRewardPerSecond", .word (·.baseRewardPerSecond)⟩,
  ⟨"stakeTotalAmount", .word (·.stakeTotalAmount)⟩,
  ⟨"totalSupply", .word (·.totalSupply)⟩]

theorem Epoch.ofFilled {epoch : Epoch}
    (shape : recordEntries? 8 value = some entries)
    (filled : Filled epoch entries 0 fields) : ofJson? value = some epoch := by
  simp only [Filled, fields, Content.ReadFrom] at filled
  simp [ofJson?, shape, filled]

def PendingRewards.fields : List (Field PendingRewards) := [
  ⟨"address", .address (·.address)⟩,
  ⟨"staker", .word (·.staker)⟩,
  ⟨"amount", .word (·.amount)⟩]

theorem PendingRewards.ofFilled {rewards : PendingRewards}
    (shape : recordEntries? 3 value = some entries)
    (filled : Filled rewards entries 0 fields) : ofJson? value = some rewards := by
  simp only [Filled, fields, Content.ReadFrom] at filled
  simp [ofJson?, shape, filled]

def DelegationLock.fields : List (Field DelegationLock) := [
  ⟨"lockedAmount", .word (·.lockedAmount)⟩,
  ⟨"lockedFromEpoch", .count (·.lockedFromEpoch)⟩,
  ⟨"lockedUntil", .count (·.lockedUntil)⟩,
  ⟨"duration", .count (·.duration)⟩]

theorem DelegationLock.ofFilled {lock : DelegationLock}
    (shape : recordEntries? 4 value = some entries)
    (filled : Filled lock entries 0 fields) : ofJson? value = some lock := by
  simp only [Filled, fields, Content.ReadFrom] at filled
  simp [ofJson?, shape, filled]

def DefiAddresses.fields : List (Field DefiAddresses) := [
  ⟨"addressProvider", .optional (·.addressProvider)⟩,
  ⟨"minter", .optional (·.minter)⟩,
  ⟨"tokenRegistry", .optional (·.tokenRegistry)⟩,
  ⟨"rewardDistribution", .optional (·.rewardDistribution)⟩,
  ⟨"collateralPool", .optional (·.collateralPool)⟩,
  ⟨"debtPool", .optional (·.debtPool)⟩,
  ⟨"priceOracleAggregate", .optional (·.priceOracleAggregate)⟩]

theorem DefiAddresses.ofFilled {addresses : DefiAddresses}
    (shape : recordEntries? 7 value = some entries)
    (filled : Filled addresses entries 0 fields) : ofJson? value = some addresses := by
  simp only [Filled, fields, Content.ReadFrom] at filled
  simp [ofJson?, shape, filled]

def DefiSettings.fields : List (Field DefiSettings) := [
  ⟨"fmintContract", .address (·.mintContract)⟩,
  ⟨"fmintAddressProvider", .optional (·.mintAddressProvider)⟩,
  ⟨"fmintTokenRegistry", .optional (·.mintTokenRegistry)⟩,
  ⟨"fmintRewardDistribution", .optional (·.mintRewardDistribution)⟩,
  ⟨"fmintCollateralPool", .optional (·.mintCollateralPool)⟩,
  ⟨"fmintDebtPool", .optional (·.mintDebtPool)⟩,
  ⟨"priceOracleAggregate", .optional (·.priceOracleAggregate)⟩,
  ⟨"mintFee4", .word (·.mintFee)⟩,
  ⟨"minCollateralRatio4", .word (·.minimumCollateralRatio)⟩,
  ⟨"rewardCollateralRatio4", .word (·.rewardCollateralRatio)⟩,
  ⟨"decimals", .small (·.decimals)⟩]

theorem DefiSettings.ofFilled {settings : DefiSettings}
    (shape : recordEntries? 11 value = some entries)
    (filled : Filled settings entries 0 fields) : ofJson? value = some settings := by
  simp only [Filled, fields, Content.ReadFrom] at filled
  simp [ofJson?, shape, filled]

/-- Every record survives its JSON form, in all of its spellings. -/
theorem recordsAreFaithful :
    Faithful Epoch.toJson Epoch.ofJson? Epoch.fields ∧
    Faithful PendingRewards.toJson PendingRewards.ofJson? PendingRewards.fields ∧
    Faithful DelegationLock.toJson DelegationLock.ofJson? DelegationLock.fields ∧
    Faithful DefiAddresses.toJson DefiAddresses.ofJson? DefiAddresses.fields ∧
    Faithful DefiSettings.toJson DefiSettings.ofJson? DefiSettings.fields :=
  ⟨.ofFields (by decide) (fun _ => rfl) fun _ _ _ => Epoch.ofFilled,
    .ofFields (by decide) (fun _ => rfl) fun _ _ _ => PendingRewards.ofFilled,
    .ofFields (by decide) (fun _ => rfl) fun _ _ _ => DelegationLock.ofFilled,
    .ofFields (by decide) (fun _ => rfl) fun _ _ _ => DefiAddresses.ofFilled,
    .ofFields (by decide) (fun _ => rfl) fun _ _ _ => DefiSettings.ofFilled⟩

def smallRewards : PendingRewards := ⟨⟨258⟩, 7, 2⟩

/-- The members have another order, one of them is unknown, and no value is spelled as it would be
written. -/
def respelled : Json := .object [
  ("amount", .text "0b1_0"),
  ("note", .null),
  ("staker", .integer 7),
  ("address", .list (List.replicate 18 (.integer 0) ++ [.integer 1, .integer 2]))]

/-- Such rewards are read all the same, and again after they were written as usual. -/
theorem recordsAreFaithfulRespelled : PendingRewards.ofJson? respelled = some smallRewards ∧
    PendingRewards.ofJson? smallRewards.toJson = some smallRewards := by
  have numeral : Numeral 2 ['1', '0'] 2 :=
    (Numeral.nil.snoc rfl Nat.one_lt_two).snoc rfl Nat.zero_lt_two
  have amount : Word.Spelled 2 "0b1_0" :=
    ⟨2, ['0', 'b'], ['1', '_', '0'], by decide, rfl, numeral⟩
  have spelled : Spells PendingRewards.fields smallRewards respelled := by
    refine .object (by decide) fun field member => ?_
    simp only [PendingRewards.fields, List.mem_cons, List.not_mem_nil, or_false] at member
    rcases member with rfl | rfl | rfl
    · exact ⟨some _, List.mem_of_getElem? (i := 3) rfl, _, rfl, .bytes⟩
    · exact ⟨some _, List.mem_of_getElem? (i := 2) rfl, _, rfl, .number⟩
    · exact ⟨some _, List.mem_of_getElem? (i := 0) rfl, _, rfl, .text amount⟩
  have faithful := recordsAreFaithful.2.1
  have read := (faithful.unites respelled smallRewards spelled).1
  exact ⟨read, faithful.settles respelled smallRewards read⟩

end NodeBridge.Staking
