import NodeBridge.Proofs.Staking.Accessor
import NodeBridge.Proofs.Staking.Dialogue

/-
This file says how a reading ends and how often it reports an error on the way.
The first query that fails ends the reading. Most readings report it once, but the three readings of
a stake keep quiet about it, and some readings keep quiet about a value that does not fit.
-/

namespace NodeBridge.Staking

namespace Note

def failure? : Note → Option Failure
  | answered _ (.error failure) => some failure
  | answered _ (.ok _) => none
  | reported _ => none

def isError : Note → Bool
  | answered _ _ => false
  | reported event => event.level = .error

end Note

/-- These are the failures that queries of a dialogue were answered with. -/
def failures (notes : List Note) : List Failure := notes.filterMap Note.failure?

/-- This is the number of errors that are reported in a dialogue. -/
def errors (notes : List Note) : Nat := notes.countP Note.isError

/-- A dialogue ends with a value or with its first failure.
So many errors are reported about a query that failed, and so many about a value that is unfit. -/
inductive Conclusion (aboutFailure aboutValue : Nat) {A : Type} :
    List Note → Except Failure A → Prop where
  | value {notes : List Note} {value : A} (sound : failures notes = [])
      (quiet : errors notes = 0) : Conclusion aboutFailure aboutValue notes (.ok value)
  | failed {notes : List Note} {failure : Failure} (single : failures notes = [failure])
      (reported : errors notes = aboutFailure) :
      Conclusion aboutFailure aboutValue notes (.error failure)
  | unfit {notes : List Note} {cause : Malformation} (sound : failures notes = [])
      (reported : errors notes = aboutValue) :
      Conclusion aboutFailure aboutValue notes (.error (.malformed cause))

/-- Every dialogue of a reading ends like this. -/
def Concludes (aboutFailure aboutValue : Nat) {A : Type} (reading : Reading A) : Prop :=
  ∀ notes result, Dialogue reading notes result → Conclusion aboutFailure aboutValue notes result

variable {A B : Type} {aboutFailure aboutValue : Nat} {before after : List Note}

theorem failuresAppend (sound : failures before = []) :
    failures (before ++ after) = failures after := by
  rw [failures, failures, List.filterMap_append]
  rw [failures] at sound
  rw [sound, List.nil_append]

theorem errorsAppend (quiet : errors before = 0) : errors (before ++ after) = errors after := by
  rw [errors, errors, List.countP_append]
  rw [errors] at quiet
  rw [quiet, Nat.zero_add]

/-- An outcome without a value says that something was unfit. -/
def RefusesUnfit (outcome : Except Failure A) : Prop :=
  ∀ failure, outcome = .error failure → ∃ cause, failure = .malformed cause

theorem narrowRefuses (name : String) (value : Word) : RefusesUnfit (narrow name value) := by
  intro failure refused
  rw [narrow] at refused
  split at refused
  · contradiction
  · exact ⟨_, (Except.error.inj refused).symm⟩

theorem RefusesUnfit.bind {first : Except Failure A} {next : A → Except Failure B}
    (begins : RefusesUnfit first) (goesOn : ∀ value, RefusesUnfit (next value)) :
    RefusesUnfit (first >>= next) := by
  intro failure refused
  cases first with
  | error cause => exact begins failure (congrArg Except.error (Except.error.inj refused))
  | ok value => exact goesOn value failure refused

theorem Lockup.narrowRefuses (lockup : Lockup) : RefusesUnfit lockup.narrow :=
  (Staking.narrowRefuses _ _).bind fun _ => (Staking.narrowRefuses _ _).bind fun _ =>
    (Staking.narrowRefuses _ _).bind fun _ => nofun

namespace Concludes

theorem done (value : A) : Concludes aboutFailure aboutValue (pure value : Reading A) := by
  intro notes result dialogue
  obtain ⟨rfl, rfl⟩ := Reading.pureIff.mp dialogue
  exact .value rfl rfl

theorem query (asked : Query) : Concludes 0 aboutValue (Reading.query asked) := by
  intro notes result dialogue
  obtain rfl := Reading.queryIff.mp dialogue
  cases result with
  | ok answer => exact .value rfl rfl
  | error failure => exact .failed rfl rfl

theorem narrow (name : String) (value : Word) :
    Concludes aboutFailure 0 (liftM (Staking.narrow name value) : Reading UInt64) := by
  intro notes result dialogue
  obtain ⟨rfl, rfl⟩ := Reading.liftIff.mp dialogue
  rw [Staking.narrow]
  split
  · exact .value rfl rfl
  · exact .unfit rfl rfl

theorem report {event : Event} (mild : event.level = .debug) :
    Concludes aboutFailure aboutValue (Reading.report event) := by
  intro notes result dialogue
  obtain ⟨rfl, rfl⟩ := Reading.reportIff.mp dialogue
  refine .value rfl ?_
  simp [errors, Note.isError, mild]

/-- The reading goes on only after a value, and up to there nothing failed. -/
theorem bind {first : Reading A} {next : A → Reading B}
    (begins : Concludes aboutFailure aboutValue first)
    (goesOn : ∀ value, Concludes aboutFailure aboutValue (next value)) :
    Concludes aboutFailure aboutValue (first >>= next : Reading B) := by
  intro notes result dialogue
  obtain ⟨failure, begun, rfl⟩ | ⟨before, value, after, begun, rest, rfl⟩ :=
    Reading.bindIff.mp dialogue
  · cases begins _ _ begun with
    | failed single reported => exact .failed single reported
    | unfit sound reported => exact .unfit sound reported
  · cases begins _ _ begun with
    | value sound quiet =>
        cases goesOn _ _ _ rest with
        | value soundLater quietLater =>
            exact .value ((failuresAppend sound).trans soundLater)
              ((errorsAppend quiet).trans quietLater)
        | failed single reported =>
            exact .failed ((failuresAppend sound).trans single)
              ((errorsAppend quiet).trans reported)
        | unfit soundLater reported =>
            exact .unfit ((failuresAppend sound).trans soundLater)
              ((errorsAppend quiet).trans reported)

/-- A query that fails is reported once. -/
theorem reportingQuery {event : Failure → Event}
    (severe : ∀ failure, (event failure).level = .error) (asked : Query) :
    Concludes 1 aboutValue (Reading.reporting event (Reading.query asked)) := by
  intro notes result dialogue
  obtain ⟨answer, rfl, rfl⟩ | ⟨failure, rfl, rfl⟩ := Reading.reportingQueryIff.mp dialogue
  · exact .value rfl rfl
  · exact .failed rfl (by simp [errors, Note.isError, severe])

/-- A value that is unfit is reported once. -/
theorem reportingUnfit {event : Failure → Event}
    (severe : ∀ failure, (event failure).level = .error) {outcome : Except Failure A}
    (refuses : RefusesUnfit outcome) :
    Concludes aboutFailure 1 (Reading.reporting event (liftM outcome)) := by
  intro notes result dialogue
  obtain ⟨value, begun, rfl⟩ | ⟨before, failure, begun, rfl, rfl⟩ :=
    Reading.reportingIff.mp dialogue
  · obtain ⟨rfl, _⟩ := Reading.liftIff.mp begun
    exact .value rfl rfl
  · obtain ⟨rfl, refused⟩ := Reading.liftIff.mp begun
    obtain ⟨cause, rfl⟩ := refuses failure refused.symm
    exact .unfit rfl (by simp [errors, Note.isError, severe])

end Concludes

theorem parameterConcludes (which : Parameter) : Concludes 1 aboutValue (parameter which) :=
  .reportingQuery (fun _ => rfl) _

theorem smallParameterConcludes (which : Parameter) : Concludes 1 0 (smallParameter which) :=
  (parameterConcludes which).bind fun value => .narrow which.method value

theorem versionConcludes : Concludes 1 aboutValue version :=
  (Concludes.reportingQuery (fun _ => rfl) _).bind fun _ => .done _

theorem epochConcludes (id : UInt64) : Concludes 1 0 (epoch id) :=
  (Concludes.reportingQuery (fun _ => rfl) _).bind fun snapshot =>
    (Concludes.narrow "epoch end time" snapshot.endTime).bind fun _ => .done _

/-- The answer about a penalty is the only one with a length, and another length is reported. -/
theorem unlockPenaltyConcludes (delegator : Address) (validator amount : Word) :
    Concludes 1 1 (unlockPenalty delegator validator amount) := by
  refine (Concludes.reportingQuery (fun _ => rfl) _).bind fun data => ?_
  dsimp only
  split
  case isTrue wrong =>
    intro notes result dialogue
    obtain ⟨failure, told, _⟩ | ⟨before, _, after, told, rest, rfl⟩ := Reading.bindIff.mp dialogue
    · exact absurd (Reading.reportIff.mp told).2 nofun
    · obtain ⟨rfl, _⟩ := Reading.reportIff.mp told
      obtain ⟨failure, thrown, rfl⟩ | ⟨_, _, _, thrown, _⟩ := Reading.bindIff.mp rest
      · obtain ⟨rfl, same⟩ := Reading.throwIff.mp thrown
        obtain rfl := Except.error.inj same
        exact .unfit rfl rfl
      · exact absurd (Reading.throwIff.mp thrown).2 nofun
  case isFalse => exact .done _

theorem delegationLockConcludes (delegator : Address) (validator : Word) :
    Concludes 1 1 (delegationLock delegator validator) :=
  (Concludes.reportingQuery (fun _ => rfl) _).bind fun lockup =>
    .reportingUnfit (fun _ => rfl) lockup.narrowRefuses

theorem defiParameterConcludes (which : DefiParameter) :
    Concludes 1 aboutValue (defiParameter which) :=
  .reportingQuery (fun _ => rfl) _

theorem defiSettingsConcludes {addresses : DefiAddresses} (known : addresses.minter ≠ none) :
    Concludes 1 0 (defiSettings addresses) := by
  obtain ⟨minter, found⟩ := Option.ne_none_iff_exists'.mp known
  rw [defiSettings, found]
  refine (defiParameterConcludes _).bind fun _ => (defiParameterConcludes _).bind fun _ =>
    (defiParameterConcludes _).bind fun _ => (defiParameterConcludes _).bind fun correction => ?_
  exact (Concludes.narrow "fee digits correction" correction).bind fun _ => .done _

/-- Without a minter nothing is asked. -/
theorem defiSettingsUnset {addresses : DefiAddresses} (unknown : addresses.minter = none) :
    defiSettings addresses = throw (.notConfigured "fMint minter") := by
  rw [defiSettings, unknown]

/-- Rewards that cannot be read count as zero, but the failure is reported. -/
theorem pendingRewardsConcludes {delegator : Address} {validator : Word} {notes : List Note}
    {result : Except Failure PendingRewards}
    (dialogue : Dialogue (pendingRewards delegator validator) notes result) :
    (∃ amount, failures notes = [] ∧ errors notes = 0 ∧
      result = .ok ⟨delegator, validator, amount⟩) ∨
    ∃ failure, failures notes = [failure] ∧ errors notes = 1 ∧
      result = .ok ⟨delegator, validator, 0⟩ := by
  obtain ⟨value, begun, rfl⟩ | ⟨before, failure, after, begun, rest, rfl⟩ :=
    Reading.catchIff.mp dialogue
  · obtain ⟨_, _, refused⟩ | ⟨before, amount, after, asked, rest, rfl⟩ := Reading.bindIff.mp begun
    · contradiction
    · obtain rfl := Reading.queryIff.mp asked
      obtain ⟨rfl, same⟩ := Reading.pureIff.mp rest
      exact .inl ⟨amount, rfl, rfl, same⟩
  · obtain ⟨cause, asked, same⟩ | ⟨_, _, _, _, rest, _⟩ := Reading.bindIff.mp begun
    · obtain rfl := Except.error.inj same
      obtain rfl := Reading.queryIff.mp asked
      obtain ⟨_, told, _⟩ | ⟨_, _, _, told, instead, rfl⟩ := Reading.bindIff.mp rest
      · exact absurd (Reading.reportIff.mp told).2 nofun
      · obtain ⟨rfl, _⟩ := Reading.reportIff.mp told
        obtain ⟨rfl, rfl⟩ := Reading.pureIff.mp instead
        exact .inr ⟨_, rfl, rfl, rfl⟩
    · exact absurd (Reading.pureIff.mp rest).2 nofun

namespace Accessor

/-- So many errors are reported about a query that failed. -/
def failureReports : Accessor → Nat
  | amountStaked _ _ => 0
  | amountLocked _ _ => 0
  | amountUnlocked _ _ => 0
  | _ => 1

/-- So many errors are reported about a value that is unfit. -/
def valueReports : Accessor → Nat
  | currentEpoch => 0
  | currentSealedEpoch => 0
  | epoch _ => 0
  | lockingAllowed => 0
  | defiSettings => 0
  | _ => 1

/-- The settings of the lending market are only read if its minter is known. -/
def Known (addresses : DefiAddresses) (accessor : Accessor) : Prop :=
  accessor = defiSettings → addresses.minter ≠ none

/-- Every reading but one ends with its first failure. -/
theorem concludes {addresses : DefiAddresses} {accessor : Accessor}
    (known : accessor.Known addresses)
    (passesOn : ∀ delegator validator, accessor ≠ .pendingRewards delegator validator) :
    Concludes accessor.failureReports accessor.valueReports (accessor.reading addresses) := by
  cases accessor with
  | version => exact versionConcludes
  | currentEpoch | currentSealedEpoch => exact smallParameterConcludes _
  | epoch id => exact epochConcludes id
  | rewardsAllowed => exact (Concludes.report rfl).bind fun _ => .done _
  | lockingAllowed => exact (smallParameterConcludes _).bind fun _ => .done _
  | totalStaked | minimumValidatorStake | maximumDelegatedRatio | minimumLockupDuration
  | maximumLockupDuration | withdrawalPeriodEpochs | withdrawalPeriodTime =>
      exact parameterConcludes _
  | amountStaked delegator validator => exact (Concludes.report rfl).bind fun _ => .query _
  | amountLocked delegator validator | amountUnlocked delegator validator => exact .query _
  | unlockPenalty delegator validator amount => exact unlockPenaltyConcludes _ _ _
  | pendingRewards delegator validator => exact absurd rfl (passesOn delegator validator)
  | delegationLock delegator validator => exact delegationLockConcludes _ _
  | outstandingToken delegator validator | withdrawalAllowed delegator validator =>
      exact (Concludes.report rfl).bind fun _ => .reportingQuery (fun _ => rfl) _
  | defiSettings => exact defiSettingsConcludes (known rfl)

end Accessor

/-- So many errors are due for the failures of queries and for the result. -/
def due (aboutFailure aboutValue : Nat) {A : Type} : List Failure → Except Failure A → Nat
  | _ :: _, _ => aboutFailure
  | [], .error (.malformed _) => aboutValue
  | [], _ => 0

theorem Conclusion.isDue {notes : List Note} {result : Except Failure A}
    (conclusion : Conclusion aboutFailure aboutValue notes result) :
    (failures notes).length ≤ 1 ∧
      errors notes = due aboutFailure aboutValue (failures notes) result := by
  cases conclusion with
  | value sound quiet => exact ⟨by simp [sound], by simp [sound, quiet, due]⟩
  | failed single reported => exact ⟨by simp [single], by simp [single, reported, due]⟩
  | unfit sound reported => exact ⟨by simp [sound], by simp [sound, reported, due]⟩

theorem Accessor.isDue {addresses : DefiAddresses} {accessor : Accessor} {notes : List Note}
    {result : Except Failure accessor.Result}
    (dialogue : Dialogue (accessor.reading addresses) notes result) :
    (failures notes).length ≤ 1 ∧
      errors notes = due accessor.failureReports accessor.valueReports (failures notes) result := by
  by_cases fallsBack : ∃ delegator validator, accessor = .pendingRewards delegator validator
  · obtain ⟨delegator, validator, rfl⟩ := fallsBack
    obtain ⟨amount, sound, quiet, rfl⟩ | ⟨failure, single, reported, rfl⟩ :=
      pendingRewardsConcludes dialogue
    · exact Conclusion.isDue (.value sound quiet)
    · exact ⟨by simp [single], by simp [single, reported, due, failureReports]⟩
  · by_cases known : accessor.Known addresses
    · refine (concludes known ?_ _ _ dialogue).isDue
      intro delegator validator same
      exact fallsBack ⟨delegator, validator, same⟩
    · obtain ⟨rfl, unknown⟩ := Classical.not_imp.mp known
      rw [reading, defiSettingsUnset (Classical.not_not.mp unknown)] at dialogue
      obtain ⟨rfl, rfl⟩ := Reading.throwIff.mp dialogue
      exact ⟨Nat.zero_le 1, rfl⟩

open Inquiry

/-- These queries of an inquiry were answered with a failure. -/
def Inquiry.failed {State : Type} (respond : Responder State) (inquiry : Inquiry A)
    (state : State) : List Failure :=
  failures ((inquiry.turns respond state).map Turn.note)

/-- So many errors were reported in a course. -/
def Inquiry.Course.errors {State : Type} (course : Course State) : Nat :=
  course.events.countP fun event => event.level = .error

/-- Nothing that is only reported is a failure of a query. -/
theorem failuresOfAnswers (notes : List Note) :
    failures (notes.filter Note.isAnswer) = failures notes := by
  rw [failures, failures, List.filterMap_filter]
  congr 1
  funext note
  cases note <;> rfl

theorem errorsOfEvents (notes : List Note) :
    (notes.filterMap Note.event?).countP (fun event => event.level = .error) = errors notes := by
  rw [errors, List.countP_filterMap]
  congr 1
  funext note
  cases note <;> rfl

/-- At most one query of a reading fails, and this is reported once, and so is a value that is
unfit. But nobody hears of it if a stake could not be read or if some values are unfit. -/
theorem failuresAreReported {State : Type} (respond : Responder State)
    (addresses : DefiAddresses) (accessor : Accessor) (state : State) :
    let (result, course) := run respond (accessor.reading addresses) ⟨state, [], []⟩
    let failed := failed respond (accessor.reading addresses) state
    failed.length ≤ 1 ∧
      course.errors = due accessor.failureReports accessor.valueReports failed result := by
  obtain ⟨notes, dialogue, _, events, answers⟩ :=
    runDialogue respond (accessor.reading addresses) ⟨state, [], []⟩
  have failed : failed respond (accessor.reading addresses) state = failures notes := by
    rw [Inquiry.failed, ← answers, failuresOfAnswers]
  have errors : (run respond (accessor.reading addresses) ⟨state, [], []⟩).2.errors =
      errors notes := by
    rw [Course.errors, events, List.nil_append, errorsOfEvents]
  have isDue := Accessor.isDue dialogue
  rw [← failed, ← errors] at isDue
  exact isDue

/-- No query gets an answer. -/
def refusing : Responder Unit :=
  fun query _ => (.error (.call query.method "execution reverted"), ())

/-- Nobody hears that a locked stake could not be read. -/
theorem failureGoesUnheard :
    ¬ ∀ (respond : Responder Unit) (addresses : DefiAddresses) (accessor : Accessor),
      let (result, course) := run respond (accessor.reading addresses) ⟨(), [], []⟩
      course.errors = due 1 1 (failed respond (accessor.reading addresses) ()) result := by
  intro everyFailureIsHeard
  have once : (0 : Nat) = 1 := everyFailureIsHeard refusing {} (.amountLocked Address.zero 3)
  contradiction

end NodeBridge.Staking
