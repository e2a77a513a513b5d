import Mathlib.Data.Nat.Digits.Defs
import NodeBridge.Proofs.Staking.Asking
import NodeBridge.Proofs.Staking.Fidelity

/-
This file says that a reading shows the numbers of its contract as they are or refuses them.
A record is filled only if all its words of 64 bits fit, and otherwise the first one that does not
is named with its value.
-/

namespace NodeBridge.Staking

open Inquiry (run Course)

variable {A B : Type}

/-- A reading that asks nothing more comes to this outcome. -/
def Settles (outcome : Except Failure A) (reading : Reading A) : Prop :=
  ∀ notes result, Dialogue reading notes result →
    notes.filter Note.isAnswer = [] ∧ result = outcome

namespace Settles

theorem done (value : A) : Settles (.ok value) (pure value) := by
  intro notes result dialogue
  obtain ⟨rfl, rfl⟩ := Reading.pureIff.mp dialogue
  exact ⟨rfl, rfl⟩

theorem lift (outcome : Except Failure A) : Settles outcome (liftM outcome) := by
  intro notes result dialogue
  obtain ⟨rfl, rfl⟩ := Reading.liftIff.mp dialogue
  exact ⟨rfl, rfl⟩

theorem bind {outcome : Except Failure A} {later : A → Except Failure B} {first : Reading A}
    {next : A → Reading B} (begins : Settles outcome first)
    (goesOn : ∀ value, Settles (later value) (next value)) :
    Settles (outcome >>= later) (first >>= next) := by
  intro notes result dialogue
  obtain ⟨failure, begun, rfl⟩ | ⟨before, value, after, begun, rest, rfl⟩ :=
    Reading.bindIff.mp dialogue
  · obtain ⟨unasked, rfl⟩ := begins _ _ begun
    exact ⟨unasked, rfl⟩
  · obtain ⟨unasked, rfl⟩ := begins _ _ begun
    obtain ⟨nothingMore, rfl⟩ := goesOn value _ _ rest
    exact ⟨by rw [List.filter_append, unasked, nothingMore, List.append_nil], rfl⟩

theorem reporting {outcome : Except Failure A} {reading : Reading A} (event : Failure → Event)
    (settles : Settles outcome reading) : Settles outcome (Reading.reporting event reading) := by
  intro notes result dialogue
  obtain ⟨value, begun, rfl⟩ | ⟨before, failure, begun, rfl, rfl⟩ :=
    Reading.reportingIff.mp dialogue
  · exact settles _ _ begun
  · obtain ⟨unasked, same⟩ := settles _ _ begun
    refine ⟨?_, same⟩
    rw [List.filter_append, unasked]
    rfl

/-- A report is no question, and it does not stop a failure. -/
theorem reportThrow (event : Event) (failure : Failure) (rest : PUnit → Reading A) :
    Settles (.error failure)
      (do Reading.report event; let value ← (throw failure : Reading PUnit); rest value) := by
  intro notes result dialogue
  obtain ⟨_, told, _⟩ | ⟨before, _, after, told, thrown, rfl⟩ := Reading.bindIff.mp dialogue
  · exact absurd (Reading.reportIff.mp told).2 nofun
  · obtain ⟨rfl, _⟩ := Reading.reportIff.mp told
    obtain ⟨cause, ends, rfl⟩ | ⟨_, _, _, ends, _⟩ := Reading.bindIff.mp thrown
    · obtain ⟨rfl, same⟩ := Reading.throwIff.mp ends
      obtain rfl := Except.error.inj same
      exact ⟨rfl, rfl⟩
    · exact absurd (Reading.throwIff.mp ends).2 nofun

end Settles

/-- A reading asks one query, and it converts the answer into its result. -/
def Converts (asked : Query) (convert : asked.Answer → Except Failure A) (reading : Reading A) :
    Prop :=
  ∀ notes result, Dialogue reading notes result →
    ∃ answer, notes.filter Note.isAnswer = [.answered asked answer] ∧ result = answer >>= convert

namespace Converts

variable {asked : Query} {convert : asked.Answer → Except Failure A} {reading : Reading A}

/-- A query that fails is reported, and its failure is passed on. -/
theorem ask (event : Failure → Event) {next : asked.Answer → Reading A}
    (settles : ∀ given, Settles (convert given) (next given)) :
    Converts asked convert (Reading.reporting event (Reading.query asked) >>= next) := by
  intro notes result dialogue
  obtain ⟨failure, rfl, rfl⟩ | ⟨given, after, rfl, rest⟩ :=
    Reading.reportingQueryBindIff.mp dialogue
  · exact ⟨.error failure, rfl, rfl⟩
  · obtain ⟨unasked, rfl⟩ := settles given _ _ rest
    exact ⟨.ok given, congrArg (Note.answered asked (.ok given) :: ·) unasked, rfl⟩

/-- The value of a reading can be used without another query. -/
theorem use (converts : Converts asked convert reading) (change : A → B) :
    Converts asked (fun given => change <$> convert given)
      (reading >>= fun value => pure (change value)) := by
  intro notes result dialogue
  obtain ⟨failure, begun, rfl⟩ | ⟨before, value, after, begun, rest, rfl⟩ :=
    Reading.bindIff.mp dialogue
  · obtain ⟨answer, answers, same⟩ := converts _ _ begun
    refine ⟨answer, answers, ?_⟩
    rw [← map_bind, ← same]
    rfl
  · obtain ⟨answer, answers, same⟩ := converts _ _ begun
    obtain ⟨rfl, rfl⟩ := Reading.pureIff.mp rest
    refine ⟨answer, by rw [List.append_nil, answers], ?_⟩
    rw [← map_bind, ← same]
    rfl

/-- Whoever answers, the result is what the answer to the query is converted into. -/
theorem result {State : Type} (converts : Converts asked convert reading)
    (respond : Inquiry.Responder State) (course : Course State) :
    (run respond reading course).2.asked = course.asked ++ [asked] ∧
      (run respond reading course).1 = (respond asked course.state).1 >>= convert := by
  obtain ⟨notes, dialogue, isAsked, _, answers⟩ := Inquiry.runDialogue respond reading course
  obtain ⟨answer, single, same⟩ := converts _ _ dialogue
  have linked := Inquiry.linked respond reading course
  rw [single] at answers
  obtain ⟨turn, rest, isFirst, about, none⟩ := List.map_eq_cons_iff.mp answers.symm
  obtain rfl := List.map_eq_nil_iff.mp none
  rw [isFirst] at linked
  cases linked with
  | cons responds _ =>
      cases about
      refine ⟨?_, by rw [responds]; exact same⟩
      rw [isAsked]
      exact congrArg (course.asked ++ ·) ((askedOfAnswers notes).symm.trans (congrArg _ single))

end Converts

/-- Words that are meant for 64 bits come under the names of their fields. -/
abbrev Fields := List (String × Word)

/-- This is the first field whose word does not fit. -/
def Fields.unfit? (fields : Fields) : Option (String × Word) :=
  fields.find? fun field => 2 ^ 64 ≤ field.2.toNat

theorem Fields.unfitNone {fields : Fields} :
    fields.unfit? = none ↔ ∀ field ∈ fields, field.2.toNat < 2 ^ 64 := by
  simp [unfit?, List.find?_eq_none]

/-- Unless a field is unfit there is a value that holds what it should. -/
structure Fills (fields : Fields) (Holds : A → Prop) (outcome : Except Failure A) : Prop where
  fit : fields.unfit? = none → ∃ value, outcome = .ok value ∧ Holds value
  unfit : ∀ field, fields.unfit? = some field →
    outcome = .error (.malformed (.tooLarge field.1 field.2))

namespace Fills

variable {Holds : A → Prop}

theorem done {value : A} (holds : Holds value) : Fills [] Holds (.ok value) :=
  ⟨fun _ => ⟨value, rfl, holds⟩, nofun⟩

/-- The fields are filled one after the other, and the first word that does not fit ends it. -/
theorem narrow {name : String} {word : Word} {rest : Fields} {next : UInt64 → Except Failure A}
    (fills : ∀ number : UInt64, number.toNat = word.toNat → Fills rest Holds (next number)) :
    Fills ((name, word) :: rest) Holds (Staking.narrow name word >>= next) := by
  have read := narrowed name word
  generalize Staking.narrow name word = outcome at read
  cases read with
  | @fits number same =>
      have small : ¬ 2 ^ 64 ≤ word.toNat := Nat.not_le_of_lt (same ▸ number.toNat_lt)
      have skips : Fields.unfit? ((name, word) :: rest) = Fields.unfit? rest :=
        List.find?_cons_of_neg (by simpa using small)
      have filled := fills number same
      exact ⟨fun fit => filled.fit (skips ▸ fit), fun field found => filled.unfit field (skips ▸ found)⟩
  | tooLarge large =>
      have stops : Fields.unfit? ((name, word) :: rest) = some (name, word) :=
        List.find?_cons_of_pos (by simpa using large)
      constructor
      · intro fit
        rw [stops] at fit
        contradiction
      · intro field found
        obtain rfl := Option.some.inj (stops.symm.trans found)
        rfl

end Fills

/-- A result shows an answer exactly, or it says what is wrong with it. -/
structure Exact (fields : A → Fields) (Holds : A → B → Prop) (answer : Except Failure A)
    (result : Except Failure B) : Prop where
  /-- There is a value exactly if there is an answer whose fields all fit. -/
  succeeds : (∃ value, result = .ok value) ↔
    ∃ given, answer = .ok given ∧ ∀ field ∈ fields given, field.2.toNat < 2 ^ 64
  /-- The value holds what was given. -/
  holds : ∀ given value, answer = .ok given → result = .ok value → Holds given value
  /-- The failure of the query is the failure of the reading. -/
  passes : ∀ failure, answer = .error failure → result = .error failure
  /-- The first field that does not fit is named, with its whole value. -/
  refuses : ∀ given name word, answer = .ok given → (fields given).unfit? = some (name, word) →
    ∃ failure, result = .error failure ∧ failure = .malformed (.tooLarge name word) ∧
      failure.message = "malformed response: " ++
        (name ++ " " ++ toString word.toNat ++ " does not fit into 64 bits")

/-- What is filled from an answer is exact. -/
theorem exactOfFills {fields : A → Fields} {Holds : A → B → Prop} {convert : A → Except Failure B}
    (fills : ∀ given, Fills (fields given) (Holds given) (convert given))
    (answer : Except Failure A) : Exact fields Holds answer (answer >>= convert) := by
  refine ⟨⟨?_, ?_⟩, ?_, ?_, ?_⟩
  · rintro ⟨value, read⟩
    cases answer with
    | error failure => contradiction
    | ok given =>
        refine ⟨given, rfl, Fields.unfitNone.mp ?_⟩
        cases found : (fields given).unfit? with
        | none => rfl
        | some field =>
            have refused : convert given = _ := (fills given).unfit field found
            have kept : convert given = .ok value := read
            rw [refused] at kept
            contradiction
  · rintro ⟨given, rfl, fit⟩
    obtain ⟨value, read, _⟩ := (fills given).fit (Fields.unfitNone.mpr fit)
    exact ⟨value, read⟩
  · rintro given value rfl read
    cases found : (fields given).unfit? with
    | none =>
        obtain ⟨same, converted, holds⟩ := (fills given).fit found
        obtain rfl := Except.ok.inj (converted.symm.trans read)
        exact holds
    | some field =>
        have refused := (fills given).unfit field found
        exact absurd (refused.symm.trans read) nofun
  · rintro failure rfl
    rfl
  · rintro given name word rfl found
    exact ⟨_, (fills given).unfit _ found, rfl, rfl⟩

theorem smallParameterConverts (which : Parameter) :
    Converts (.parameter which) (narrow which.method) (smallParameter which) :=
  .ask _ fun _ => .lift _

/-- An epoch is filled from its snapshot. -/
def EpochSnapshot.epoch (id : UInt64) (snapshot : EpochSnapshot) : Except Failure Epoch := do
  let endTime ← narrow "epoch end time" snapshot.endTime
  return {
    id, endTime
    epochFee := snapshot.epochFee
    totalBaseRewardWeight := snapshot.totalBaseRewardWeight
    totalTxRewardWeight := snapshot.totalTxRewardWeight
    baseRewardPerSecond := snapshot.baseRewardPerSecond
    stakeTotalAmount := snapshot.totalStake
    totalSupply := snapshot.totalSupply }

theorem epochConverts (id : UInt64) :
    Converts (.snapshot (BitVec.ofNat 256 id.toNat)) (EpochSnapshot.epoch id) (epoch id) :=
  .ask _ fun _ => (Settles.lift _).bind fun _ => .done _

theorem delegationLockConverts (delegator : Address) (validator : Word) :
    Converts (.lockup delegator validator) Lockup.narrow (delegationLock delegator validator) :=
  .ask _ fun _ => (Settles.lift _).reporting _

theorem lockingAllowedConverts : Converts (.parameter .currentSealedEpoch)
    (fun word => (fun epoch => decide (firstLockEpoch ≤ epoch)) <$>
      narrow Parameter.currentSealedEpoch.method word) lockingAllowed :=
  (smallParameterConverts .currentSealedEpoch).use _

/-- The bytes of a penalty are taken as one word. -/
def penaltyOf (bytes : List UInt8) : Except Failure Word :=
  if bytes.length = 32 then .ok (Word.ofBytes bytes)
  else .error (.malformed (.penaltyLength bytes.length))

theorem unlockPenaltyConverts (delegator : Address) (validator amount : Word) :
    Converts (.unlockPenalty delegator validator amount) penaltyOf
      (unlockPenalty delegator validator amount) := by
  refine .ask _ fun bytes => ?_
  rw [penaltyOf]
  by_cases whole : bytes.length = 32
  · simp only [whole, ne_eq, not_true_eq_false, if_false, if_true]
    exact .done _
  · simp only [whole, ne_eq, not_false_eq_true, if_false, if_true]
    exact .reportThrow _ _ _

/-- The record shows the epoch that was asked for and, field by field, its snapshot. -/
structure Epoch.Shows (id : UInt64) (snapshot : EpochSnapshot) (epoch : Epoch) : Prop where
  id : epoch.id = id
  endTime : epoch.endTime.toNat = snapshot.endTime.toNat
  epochFee : epoch.epochFee = snapshot.epochFee
  totalBaseRewardWeight : epoch.totalBaseRewardWeight = snapshot.totalBaseRewardWeight
  totalTxRewardWeight : epoch.totalTxRewardWeight = snapshot.totalTxRewardWeight
  baseRewardPerSecond : epoch.baseRewardPerSecond = snapshot.baseRewardPerSecond
  stakeTotalAmount : epoch.stakeTotalAmount = snapshot.totalStake
  totalSupply : epoch.totalSupply = snapshot.totalSupply

/-- Only the end time of an epoch has to fit. -/
def EpochSnapshot.fields (snapshot : EpochSnapshot) : Fields :=
  [("epoch end time", snapshot.endTime)]

theorem epochFills (id : UInt64) (snapshot : EpochSnapshot) :
    Fills snapshot.fields (Epoch.Shows id snapshot) (snapshot.epoch id) :=
  .narrow fun _ same => .done ⟨rfl, same, rfl, rfl, rfl, rfl, rfl, rfl⟩

/-- The record shows, field by field, the lock of the delegation. -/
structure DelegationLock.Shows (lockup : Lockup) (lock : DelegationLock) : Prop where
  lockedAmount : lock.lockedAmount = lockup.lockedStake
  lockedFromEpoch : lock.lockedFromEpoch.toNat = lockup.fromEpoch.toNat
  lockedUntil : lock.lockedUntil.toNat = lockup.endTime.toNat
  duration : lock.duration.toNat = lockup.duration.toNat

/-- All but the amount of a lock has to fit. -/
def Lockup.fields (lockup : Lockup) : Fields :=
  [("lock start epoch", lockup.fromEpoch), ("lock end time", lockup.endTime),
    ("lock duration", lockup.duration)]

theorem lockFills (lockup : Lockup) :
    Fills lockup.fields (DelegationLock.Shows lockup) lockup.narrow :=
  .narrow fun _ fromEpoch => .narrow fun _ endTime => .narrow fun _ duration =>
    .done ⟨rfl, fromEpoch, endTime, duration⟩

theorem numberFills (name : String) (word : Word) :
    Fills [(name, word)] (fun number : UInt64 => number.toNat = word.toNat)
      (narrow name word) := by
  have filled : Fills [(name, word)] (fun number : UInt64 => number.toNat = word.toNat)
      (narrow name word >>= Except.ok) := .narrow fun _ same => .done same
  rwa [show narrow name word >>= Except.ok = narrow name word from bind_pure _] at filled

/-- The first byte counts most. -/
theorem decodeOfDigits (bytes : List UInt8) :
    BigEndian.decode bytes = Nat.ofDigits 256 (bytes.map UInt8.toNat).reverse := by
  induction bytes using List.reverseRecOn with
  | nil => rfl
  | append_singleton bytes last inductionHypothesis =>
      rw [BigEndian.decode] at inductionHypothesis ⊢
      rw [List.foldl_append, inductionHypothesis, List.map_append, List.reverse_append]
      simp only [List.foldl_cons, List.foldl_nil, List.map_cons, List.map_nil, List.reverse_cons,
        List.reverse_nil, List.nil_append, List.cons_append, Nat.ofDigits_cons]
      exact Nat.add_comm _ _

theorem wordOfBytes {bytes : List UInt8} (whole : bytes.length = 32) :
    (Word.ofBytes bytes).toNat = Nat.ofDigits 256 (bytes.map UInt8.toNat).reverse := by
  have bound : Nat.ofDigits 256 (bytes.map UInt8.toNat).reverse < 256 ^ 32 := by
    rw [← whole, ← List.length_map (f := UInt8.toNat), ← List.length_reverse]
    refine Nat.ofDigits_lt_base_pow_length (by decide) fun digit member => ?_
    obtain ⟨byte, _, rfl⟩ := List.mem_map.mp (List.mem_reverse.mp member)
    exact byte.toNat_lt
  rw [Word.ofBytes, BitVec.toNat_ofNat, decodeOfDigits]
  exact Nat.mod_eq_of_lt bound

/-- A penalty is the number of exactly 32 bytes. -/
structure ExactPenalty (answer : Except Failure (List UInt8)) (result : Except Failure Word) :
    Prop where
  succeeds : (∃ value, result = .ok value) ↔ ∃ bytes, answer = .ok bytes ∧ bytes.length = 32
  /-- The first byte counts most. -/
  holds : ∀ bytes value, answer = .ok bytes → result = .ok value →
    value.toNat = Nat.ofDigits 256 (bytes.map UInt8.toNat).reverse
  passes : ∀ failure, answer = .error failure → result = .error failure
  refuses : ∀ bytes, answer = .ok bytes → bytes.length ≠ 32 →
    ∃ failure, result = .error failure ∧ failure = .malformed (.penaltyLength bytes.length) ∧
      failure.message = "malformed response: " ++
        ("unlock penalty: expected 32 bytes, received " ++ toString bytes.length)

theorem penaltyExact (answer : Except Failure (List UInt8)) :
    ExactPenalty answer (answer >>= penaltyOf) := by
  cases answer with
  | error failure => exact ⟨by simp [bind, Except.bind], nofun, fun _ same => same ▸ rfl, nofun⟩
  | ok bytes =>
      have converted : (Except.ok bytes >>= penaltyOf) = penaltyOf bytes := rfl
      rw [converted, penaltyOf]
      split
      case isTrue whole =>
        refine ⟨⟨fun _ => ⟨bytes, rfl, whole⟩, fun _ => ⟨_, rfl⟩⟩, ?_, nofun, ?_⟩
        · rintro _ _ ⟨⟩ ⟨⟩
          exact wordOfBytes whole
        · rintro _ ⟨⟩ wrong
          exact absurd whole wrong
      case isFalse wrong =>
        refine ⟨⟨nofun, ?_⟩, nofun, nofun, ?_⟩
        · rintro ⟨_, ⟨⟩, whole⟩
          exact absurd whole wrong
        · rintro _ ⟨⟩ _
          exact ⟨_, rfl, rfl, rfl⟩

/-- A reading asks one query, and answer and result are related like this. -/
def Relates {State : Type} (respond : Inquiry.Responder State) (course : Course State)
    (reading : Reading A) (asked : Query)
    (Related : Except Failure asked.Answer → Except Failure A → Prop) : Prop :=
  (run respond reading course).2.asked = course.asked ++ [asked] ∧
    Related (respond asked course.state).1 (run respond reading course).1

/-- Whoever answers, every value is exact or refused. -/
structure ExactValues {State : Type} (respond : Inquiry.Responder State) (course : Course State) :
    Prop where
  currentEpoch : Relates respond course currentEpoch (.parameter .currentEpoch)
    (Exact (fun word => [("currentEpoch", word)]) fun word number => number.toNat = word.toNat)
  currentSealedEpoch : Relates respond course currentSealedEpoch (.parameter .currentSealedEpoch)
    (Exact (fun word => [("currentSealedEpoch", word)]) fun word number =>
      number.toNat = word.toNat)
  epoch : ∀ id : UInt64, ∃ word : Word, word.toNat = id.toNat ∧
    Relates respond course (epoch id) (.snapshot word)
      (Exact EpochSnapshot.fields (Epoch.Shows id))
  delegationLock : ∀ delegator validator,
    Relates respond course (delegationLock delegator validator) (.lockup delegator validator)
      (Exact Lockup.fields DelegationLock.Shows)
  /-- Stake can be locked exactly from epoch 1600 on, if the epoch is known. -/
  lockingAllowed :
    (∀ allowed, (run respond lockingAllowed course).1 = .ok allowed ↔
      ∃ epoch : UInt64, (run respond Staking.currentSealedEpoch course).1 = .ok epoch ∧
        allowed = decide (1600 ≤ epoch.toNat)) ∧
    ∀ failure, (run respond lockingAllowed course).1 = .error failure ↔
      (run respond Staking.currentSealedEpoch course).1 = .error failure
  unlockPenalty : ∀ delegator validator amount,
    Relates respond course (unlockPenalty delegator validator amount)
      (.unlockPenalty delegator validator amount) ExactPenalty

theorem Converts.relates {State : Type} {asked : Query}
    {convert : asked.Answer → Except Failure A} {reading : Reading A}
    {Related : Except Failure asked.Answer → Except Failure A → Prop}
    (converts : Converts asked convert reading)
    (related : ∀ answer, Related answer (answer >>= convert))
    (respond : Inquiry.Responder State) (course : Course State) :
    Relates respond course reading asked Related := by
  obtain ⟨isAsked, same⟩ := converts.result respond course
  exact ⟨isAsked, same ▸ related _⟩

/-- Numbers of the contracts come through unchanged or are refused by name, and none is ever cut. -/
theorem valuesAreExact {State : Type} (respond : Inquiry.Responder State)
    (course : Course State) : ExactValues respond course where
  currentEpoch := (smallParameterConverts .currentEpoch).relates
    (exactOfFills fun _ => numberFills _ _) respond course
  currentSealedEpoch := (smallParameterConverts .currentSealedEpoch).relates
    (exactOfFills fun _ => numberFills _ _) respond course
  epoch id := by
    refine ⟨BitVec.ofNat 256 id.toNat, ?_,
      (epochConverts id).relates (exactOfFills (epochFills id)) respond course⟩
    have small := id.toNat_lt
    rw [BitVec.toNat_ofNat]
    omega
  delegationLock delegator validator := (delegationLockConverts delegator validator).relates
    (exactOfFills lockFills) respond course
  lockingAllowed := by
    have locking := (lockingAllowedConverts.result respond course).2
    have sealedEpoch := ((smallParameterConverts .currentSealedEpoch).result respond course).2
    rw [← map_bind, ← sealedEpoch] at locking
    rw [locking, Staking.currentSealedEpoch]
    cases (run respond (smallParameter .currentSealedEpoch) course).1 with
    | error failure => exact ⟨by simp, by simp⟩
    | ok epoch =>
        have begins : decide (firstLockEpoch ≤ epoch) = decide (1600 ≤ epoch.toNat) :=
          decide_eq_decide.mpr UInt64.le_iff_toNat_le
        exact ⟨by simp only [Except.map_ok, begins]; simp [eq_comm], by simp⟩
  unlockPenalty delegator validator amount :=
    (unlockPenaltyConverts delegator validator amount).relates penaltyExact respond course

end NodeBridge.Staking
