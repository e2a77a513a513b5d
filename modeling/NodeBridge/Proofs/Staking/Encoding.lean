import NodeBridge.Proofs.Numeral
import NodeBridge.Staking.Facade

/-
This file compares the calls to the contracts with what the contracts declare.
Whoever sees a request reads the arguments of its call back, and what a contract returns is read
back as the answer.
-/

namespace NodeBridge

/-- The text of bytes is read as these bytes. -/
theorem Hex.ofTextText (bytes : List UInt8) : ofText? (text bytes) = some bytes := by
  rw [ofText?, text, String.toList_ofList]
  exact decodeEncode bytes

theorem Address.parseHex (address : Address) : parse address.hex = .ok address :=
  parseSpelled address.hexSpelled

/-- A word has room for the whole address. -/
theorem Address.ofWord (address : Address) : ⟨address.word.setWidth 160⟩ = address := by
  rw [word, BitVec.setWidth_setWidth_of_le _ (by decide), BitVec.setWidth_eq]

namespace Staking

/-- Words that follow each other are found at their places. -/
theorem wordAtWords (words : List Word) (rest : List UInt8) {place : Nat}
    (inside : place < words.length) :
    wordAt (words.flatMap Word.bytes ++ rest) place = words[place] := by
  induction words generalizing place with
  | nil => contradiction
  | cons word others inductionHypothesis =>
      rw [List.flatMap_cons, List.append_assoc, wordAt]
      cases place with
      | zero =>
          rw [Nat.mul_zero, List.drop_zero, List.take_left' word.lengthBytes, Word.ofBytesBytes]
          rfl
      | succ place =>
          have later : 32 * (place + 1) = word.bytes.length + 32 * place := by
            rw [Word.lengthBytes]
            omega
          rw [later, List.drop_length_add_append, ← wordAt]
          exact inductionHypothesis (Nat.lt_of_succ_lt_succ inside)

theorem wordAtFlat (words : List Word) {place : Nat} (inside : place < words.length) :
    wordAt (words.flatMap Word.bytes) place = words[place] := by
  have found := wordAtWords words [] inside
  rwa [List.append_nil] at found

theorem lengthWords (words : List Word) :
    (words.flatMap Word.bytes).length = 32 * words.length := by
  induction words with
  | nil => rfl
  | cons word rest inductionHypothesis =>
      rw [List.flatMap_cons, List.length_append, inductionHypothesis, Word.lengthBytes,
        List.length_cons]
      omega

/-- These are all whole words of some bytes. -/
def wordsOf (bytes : List UInt8) : List Word :=
  (List.range (bytes.length / 32)).map (wordAt bytes)

theorem wordsOfWords (words : List Word) : wordsOf (words.flatMap Word.bytes) = words := by
  apply List.ext_getElem
  · rw [wordsOf, List.length_map, List.length_range, lengthWords,
      Nat.mul_div_cancel_left _ (by decide)]
  · intro place _ inside
    simp [wordsOf, wordAtFlat words inside]

theorem lengthSelector (signature : String) : (selector signature).length = 4 := by
  have whole (message : List UInt8) : (Keccak.digest message).length = 32 := by
    simp only [Keccak.digest, List.length_flatMap, List.length_reverse, BigEndian.lengthEncode,
      List.map_const', List.length_take, Vector.length_toList]
    rfl
  rw [selector, List.length_take, whole]
  rfl

namespace Query

/-- The contracts declare the methods like this. -/
def declaration : Query → String
  | version => "version()"
  | parameter .currentEpoch => "currentEpoch()"
  | parameter .currentSealedEpoch => "currentSealedEpoch()"
  | parameter .totalStake => "totalStake()"
  | parameter .minimumSelfStake => "minSelfStake()"
  | parameter .maximumDelegatedRatio => "maxDelegatedRatio()"
  | parameter .minimumLockupDuration => "minLockupDuration()"
  | parameter .maximumLockupDuration => "maxLockupDuration()"
  | parameter .withdrawalPeriodEpochs => "withdrawalPeriodEpochs()"
  | parameter .withdrawalPeriodTime => "withdrawalPeriodTime()"
  | snapshot _ => "getEpochSnapshot(uint256)"
  | stake .total _ _ => "getStake(address,uint256)"
  | stake .locked _ _ => "getLockedStake(address,uint256)"
  | stake .unlocked _ _ => "getUnlockedStake(address,uint256)"
  | pendingRewards _ _ => "pendingRewards(address,uint256)"
  | lockup _ _ => "getLockupInfo(address,uint256)"
  | unlockPenalty _ _ _ => "unlockStake(uint256,uint256)"
  | outstandingToken _ _ => "outstandingSAXIS(address,uint256)"
  | withdrawalAllowed _ _ => "allowedToWithdrawStake(address,uint256)"
  | defi .mintFee => "getFMintFee4dec()"
  | defi .minimumCollateralRatio => "getCollateralLowestDebtRatio4dec()"
  | defi .rewardCollateralRatio => "getRewardEligibilityRatio4dec()"
  | defi .feeDigitsCorrection => "fMintFeeDigitsCorrection()"

/-- These are the values of the arguments in the order of the declaration. -/
def words : Query → List Word
  | version => []
  | parameter _ => []
  | snapshot epoch => [epoch]
  | stake _ delegator validator => [delegator.word, validator]
  | pendingRewards delegator validator => [delegator.word, validator]
  | lockup delegator validator => [delegator.word, validator]
  | unlockPenalty _ validator amount => [validator, amount]
  | outstandingToken delegator validator => [delegator.word, validator]
  | withdrawalAllowed delegator validator => [delegator.word, validator]
  | defi _ => []

/-- A call begins with the selector of its declaration, and the words of its arguments follow. -/
theorem inputDeclared (query : Query) :
    query.input = selector query.declaration ++ query.words.flatMap Word.bytes := by
  have signature : query.signature = query.declaration := by
    cases query with
    | parameter which => cases which <;> rfl
    | stake part delegator validator => cases part <;> rfl
    | defi which => cases which <;> rfl
    | _ => rfl
  have words : query.arguments.flatMap (fun argument => argument.asWord.bytes) =
      query.words.flatMap Word.bytes := by
    cases query <;> rfl
  rw [input, signature, words]

/-- Every method belongs to one of these queries, whose arguments are left open. -/
def templates : List Query :=
  let nobody := Address.zero
  [version, snapshot 0, pendingRewards nobody 0, lockup nobody 0, unlockPenalty nobody 0 0,
    outstandingToken nobody 0, withdrawalAllowed nobody 0] ++
  [StakePart.total, .locked, .unlocked].map (stake · nobody 0) ++
  [Parameter.currentEpoch, .currentSealedEpoch, .totalStake, .minimumSelfStake,
    .maximumDelegatedRatio, .minimumLockupDuration, .maximumLockupDuration,
    .withdrawalPeriodEpochs, .withdrawalPeriodTime].map parameter ++
  [DefiParameter.mintFee, .minimumCollateralRatio, .rewardCollateralRatio,
    .feeDigitsCorrection].map defi

/-- The sender of a call and the words of its input are put in. -/
def fill? (sender : Option Address) (words : List Word) : Query → Option Query
  | version => some version
  | parameter which => some (parameter which)
  | defi which => some (defi which)
  | snapshot _ => words[0]?.map snapshot
  | stake part _ _ => both fun delegator validator => stake part delegator validator
  | pendingRewards _ _ => both pendingRewards
  | lockup _ _ => both lockup
  | outstandingToken _ _ => both outstandingToken
  | withdrawalAllowed _ _ => both withdrawalAllowed
  | unlockPenalty _ _ _ =>
      match sender, words with
      | some delegator, [validator, amount] => some (unlockPenalty delegator validator amount)
      | _, _ => none
where
  both (make : Address → Word → Query) : Option Query :=
    match words with
    | [delegator, validator] => some (make ⟨delegator.setWidth 160⟩ validator)
    | _ => none

/-- This is the query that a call asks, known by its method, its sender and its input. -/
def ofCall? (method : String) (sender : Option Address) (input : List UInt8) : Option Query :=
  (templates.find? (Query.method · = method)).bind (fill? sender (wordsOf (input.drop 4)))

theorem bothWords (make : Address → Word → Query) (delegator : Address) (validator : Word) :
    fill?.both [delegator.word, validator] make = some (make delegator validator) := by
  rw [fill?.both, Address.ofWord]

/-- The method, the sender and the input of a call leave no doubt about the query. -/
theorem ofCallInput (query : Query) :
    ofCall? query.method query.sender? query.input = some query := by
  rw [ofCall?, inputDeclared, List.drop_left' (lengthSelector _), wordsOfWords]
  cases query with
  | parameter which => cases which <;> rfl
  | defi which => cases which <;> rfl
  | stake part delegator validator => cases part <;> exact bothWords _ delegator validator
  | pendingRewards delegator validator | lockup delegator validator
  | outstandingToken delegator validator | withdrawalAllowed delegator validator =>
      exact bothWords _ delegator validator
  | _ => rfl

/-- The contracts declare that they return these values. -/
@[reducible]
def Returned : Query → Type
  | unlockPenalty _ _ _ => Word
  | query => query.Answer

/-- A value is written in words, with the bytes of a version first and a truth value last. -/
def encoding : (query : Query) → query.Returned → List UInt8
  | version, (major, minor, patch) => major :: minor :: patch :: List.replicate 29 0
  | snapshot _, epoch =>
      [epoch.endTime, epoch.epochFee, epoch.totalBaseRewardWeight, epoch.totalTxRewardWeight,
        epoch.baseRewardPerSecond, epoch.totalStake, epoch.totalSupply].flatMap Word.bytes
  | lockup _ _, lock =>
      [lock.lockedStake, lock.fromEpoch, lock.endTime, lock.duration].flatMap Word.bytes
  | withdrawalAllowed _ _, allowed => List.replicate 31 0 ++ [if allowed then 1 else 0]
  | unlockPenalty _ _ _, word => word.bytes
  | parameter _, word => word.bytes
  | stake _ _ _, word => word.bytes
  | pendingRewards _ _, word => word.bytes
  | outstandingToken _ _, word => word.bytes
  | defi _, word => word.bytes

/-- The answer is the value itself, but the answer about a penalty is left in bytes. -/
def answer : (query : Query) → query.Returned → query.Answer
  | unlockPenalty _ _ _, word => word.bytes
  | version, value => value
  | snapshot _, value => value
  | lockup _ _, value => value
  | withdrawalAllowed _ _, value => value
  | parameter _, value => value
  | stake _ _ _, value => value
  | pendingRewards _ _, value => value
  | outstandingToken _ _, value => value
  | defi _, value => value

theorem wordAtBytes (word : Word) : wordAt word.bytes 0 = word := by
  have found := wordAtFlat [word] Nat.zero_lt_one
  rwa [List.flatMap_singleton] at found

/-- What is long enough for its words is read. -/
theorem decodeOfLength {query : Query} {bytes : List UInt8}
    (enough : bytes.length = 32 * query.answerWords) :
    query.decode bytes = .ok (query.ofWords bytes) := by
  rw [decode]
  by_cases open? : query.answerWords = 0
  · rw [if_pos open?]
  · have filled : bytes.isEmpty = false := by
      rw [List.isEmpty_eq_false_iff, ← List.length_pos_iff]
      omega
    rw [if_neg open?, filled, if_neg (by decide), if_neg (by omega)]

/-- A contract is understood. -/
theorem decodeEncoding (query : Query) (value : query.Returned) :
    query.decode (query.encoding value) = .ok (query.answer value) := by
  cases query with
  | version => rfl
  | snapshot epoch =>
      rw [decodeOfLength (lengthWords _), ofWords, encoding]
      have found {place : Nat} (inside : place < 7) := wordAtFlat
        [value.endTime, value.epochFee, value.totalBaseRewardWeight, value.totalTxRewardWeight,
          value.baseRewardPerSecond, value.totalStake, value.totalSupply] inside
      rw [found (by decide : 0 < 7), found (by decide : 1 < 7), found (by decide : 2 < 7),
        found (by decide : 3 < 7), found (by decide : 4 < 7), found (by decide : 5 < 7),
        found (by decide : 6 < 7)]
      rfl
  | lockup delegator validator =>
      rw [decodeOfLength (lengthWords _), ofWords, encoding]
      have found {place : Nat} (inside : place < 4) := wordAtFlat
        [value.lockedStake, value.fromEpoch, value.endTime, value.duration] inside
      rw [found (by decide : 0 < 4), found (by decide : 1 < 4), found (by decide : 2 < 4),
        found (by decide : 3 < 4)]
      rfl
  | unlockPenalty => rfl
  | withdrawalAllowed delegator validator =>
      cases value <;> rfl
  | parameter | stake | pendingRewards | outstandingToken | defi =>
      rw [decodeOfLength (Word.lengthBytes _), ofWords, encoding, wordAtBytes]
      rfl

end Query

/-- The node sees who calls, which contract is called and the bytes of the call. -/
structure Message where
  sender : Option Address
  receiver : Address
  input : List UInt8

/-- The node reads the message of a call out of its request. -/
def Message.ofRequest? (request : Connection.Request) : Option Message :=
  match request.parameters with
  | .list (call :: _) => do
      let text (key : String) := (call.member? key).bind Json.text?
      let receiver ← (text "to").bind Address.ofText?
      let input ← (text "input").bind Hex.ofText?
      if request.method = "eth_call" then
        some ⟨(text "from").bind Address.ofText?, receiver, input⟩
      else none
  | _ => none

theorem messageOfRequest (address : Address) (query : Query) :
    Message.ofRequest? (Facade.request address query) =
      some ⟨query.sender?, address, query.input⟩ := by
  have spelled (address : Address) : Address.ofText? address.hex = some address := by
    rw [Address.ofText?, Address.parseHex]
    rfl
  rw [Facade.request]
  cases query.sender? <;>
    simp [Message.ofRequest?, Json.member?, Json.lookup, Json.text?, spelled, Hex.ofTextText]

/-- A request gives its query back to everyone who knows the method. -/
structure Conveys (address : Address) (query : Query) (request : Connection.Request) : Prop where
  message : Message.ofRequest? request =
    some ⟨query.sender?, address, selector query.declaration ++ query.words.flatMap Word.bytes⟩
  selected : (selector query.declaration).length = 4
  readBack : ∀ message, Message.ofRequest? request = some message →
    Query.ofCall? query.method message.sender message.input = some query
  unique : ∀ other receiver, other.method = query.method →
    Facade.request receiver other = request → other = query ∧ receiver = address
  unlock : ∀ delegator validator amount, query = .unlockPenalty delegator validator amount →
    Message.ofRequest? request = some ⟨some delegator, address,
      selector "unlockStake(uint256,uint256)" ++ (validator.bytes ++ amount.bytes)⟩

theorem conveys (address : Address) (query : Query) :
    Conveys address query (Facade.request address query) where
  message := by rw [messageOfRequest, Query.inputDeclared]
  selected := lengthSelector _
  readBack := by
    intro message seen
    rw [messageOfRequest] at seen
    obtain rfl := Option.some.inj seen
    exact query.ofCallInput
  unique := by
    intro other receiver sameMethod sameRequest
    have seen := congrArg Message.ofRequest? sameRequest
    rw [messageOfRequest, messageOfRequest] at seen
    obtain ⟨sameSender, sameReceiver, sameInput⟩ := Message.mk.inj (Option.some.inj seen)
    have readBack := other.ofCallInput
    rw [sameMethod, sameSender, sameInput, query.ofCallInput] at readBack
    exact ⟨(Option.some.inj readBack).symm, sameReceiver⟩
  unlock := by
    rintro delegator validator amount rfl
    rw [messageOfRequest, Query.inputDeclared]
    simp [Query.sender?, Query.declaration, Query.words]

end Staking

end NodeBridge
