import NodeBridge.Proofs.Staking.Reporting
import NodeBridge.Proofs.Staking.Asking
import NodeBridge.Proofs.Staking.Fidelity

/-
This file says that the settings of the lending market are read as a whole or not at all.
The minter is asked for one parameter after the other, and the first failure is the last answer.
-/

namespace NodeBridge.Staking

open Inquiry (run Course Responder Turn Linked turns)

variable {A : Type}

/-- These parameters are read for the settings, in this order. -/
def DefiParameter.all : List DefiParameter :=
  [.mintFee, .minimumCollateralRatio, .rewardCollateralRatio, .feeDigitsCorrection]

namespace Note

def given (found : DefiParameter × Word) : Note := .answered (.defi found.1) (.ok found.2)

def refused (which : DefiParameter) (failure : Failure) : Note :=
  .answered (.defi which) (.error failure)

end Note

/-- A call that failed is reported with its method and the failure. -/
def callFailed (method : String) (failure : Failure) : Event :=
  event .error "Can not pull DeFi config value" [("call", .quoted method), cause failure]

/-- A survey of parameters finds all their words, or it ends with the first failure. -/
inductive Surveyed (Ends : List Word → Except Failure A → Prop) :
    List DefiParameter → List Note → Except Failure A → Prop where
  | complete (found : List (DefiParameter × Word)) {result : Except Failure A}
      (ends : Ends (found.map Prod.snd) result) :
      Surveyed Ends (found.map Prod.fst) (found.map Note.given) result
  | failed (found : List (DefiParameter × Word)) (which : DefiParameter)
      (after : List DefiParameter) (failure : Failure) :
      Surveyed Ends (found.map Prod.fst ++ which :: after)
        (found.map Note.given ++
          [.refused which failure, .reported (callFailed which.method failure)])
        (.error failure)

/-- Every dialogue of a reading is a survey of these parameters. -/
def Surveys (Ends : List Word → Except Failure A → Prop) (parameters : List DefiParameter)
    (reading : Reading A) : Prop :=
  ∀ notes result, Dialogue reading notes result → Surveyed Ends parameters notes result

namespace Surveys

variable {Ends : List Word → Except Failure A → Prop} {parameters : List DefiParameter}

/-- When all words are there, it is decided without another note. -/
theorem settle {outcome : Except Failure UInt64} {change : UInt64 → A}
    (ends : Ends [] (change <$> outcome)) :
    Surveys Ends [] (do let value ← (liftM outcome : Reading UInt64); return change value) := by
  intro notes result dialogue
  obtain ⟨failure, lifted, rfl⟩ | ⟨before, value, after, lifted, rest, rfl⟩ :=
    Reading.bindIff.mp dialogue
  · obtain ⟨rfl, rfl⟩ := Reading.liftIff.mp lifted
    exact .complete [] ends
  · obtain ⟨rfl, rfl⟩ := Reading.liftIff.mp lifted
    obtain ⟨rfl, rfl⟩ := Reading.pureIff.mp rest
    exact .complete [] ends

/-- A parameter that has a word is followed by the survey of the other parameters. -/
theorem ask {which : DefiParameter} {next : Word → Reading A}
    (goesOn : ∀ word, Surveys (fun words => Ends (word :: words)) parameters (next word)) :
    Surveys Ends (which :: parameters) (defiParameter which >>= next) := by
  intro notes result dialogue
  obtain ⟨failure, rfl, rfl⟩ | ⟨word, after, rfl, rest⟩ :=
    Reading.reportingQueryBindIff.mp dialogue
  · exact .failed [] which parameters failure
  · cases goesOn word _ _ rest with
    | complete found ends => exact .complete ((which, word) :: found) ends
    | failed found other after failure =>
        exact .failed ((which, word) :: found) other after failure

end Surveys

/-- The settings take every address from its own place and the numbers from the parameters. -/
structure DefiSettings.Holds (addresses : DefiAddresses) (minter : Address)
    (mintFee minimumCollateralRatio rewardCollateralRatio correction : Word)
    (settings : DefiSettings) : Prop where
  mintContract : settings.mintContract = minter
  mintAddressProvider : settings.mintAddressProvider = addresses.addressProvider
  mintTokenRegistry : settings.mintTokenRegistry = addresses.tokenRegistry
  mintRewardDistribution : settings.mintRewardDistribution = addresses.rewardDistribution
  mintCollateralPool : settings.mintCollateralPool = addresses.collateralPool
  mintDebtPool : settings.mintDebtPool = addresses.debtPool
  priceOracleAggregate : settings.priceOracleAggregate = addresses.priceOracleAggregate
  mintFee : settings.mintFee = mintFee
  minimumCollateralRatio : settings.minimumCollateralRatio = minimumCollateralRatio
  rewardCollateralRatio : settings.rewardCollateralRatio = rewardCollateralRatio
  /-- So many times the correction is divided by ten until it is at most one. -/
  decimals : ∃ places : Nat, settings.decimals.toInt = places ∧
    IsLeast {places : Nat | correction.toNat / 10 ^ places ≤ 1} places

/-- The words of all parameters are put together, unless the correction is too large. -/
inductive Assembled (addresses : DefiAddresses) (minter : Address) :
    List Word → Except Failure DefiSettings → Prop where
  | whole {mintFee minimumCollateralRatio rewardCollateralRatio correction : Word}
      {settings : DefiSettings} (small : correction.toNat < 2 ^ 64)
      (holds : settings.Holds addresses minter mintFee minimumCollateralRatio
        rewardCollateralRatio correction) :
      Assembled addresses minter
        [mintFee, minimumCollateralRatio, rewardCollateralRatio, correction] (.ok settings)
  | unfit {mintFee minimumCollateralRatio rewardCollateralRatio correction : Word}
      (large : 2 ^ 64 ≤ correction.toNat) :
      Assembled addresses minter
        [mintFee, minimumCollateralRatio, rewardCollateralRatio, correction]
        (.error (.malformed (.tooLarge "fee digits correction" correction)))

theorem defiSettingsSurveys {addresses : DefiAddresses} {minter : Address}
    (known : addresses.minter = some minter) :
    Surveys (Assembled addresses minter) DefiParameter.all (defiSettings addresses) := by
  rw [defiSettings, known]
  refine .ask fun mintFee => .ask fun minimumCollateralRatio => .ask fun rewardCollateralRatio =>
    .ask fun correction => .settle ?_
  have read := narrowed "fee digits correction" correction
  generalize narrow "fee digits correction" correction = outcome at read
  cases read with
  | tooLarge large => exact .unfit large
  | @fits number same =>
      refine .whole (same ▸ number.toNat_lt) ?_
      exact {
        mintContract := rfl
        mintAddressProvider := rfl
        mintTokenRegistry := rfl
        mintRewardDistribution := rfl
        mintCollateralPool := rfl
        mintDebtPool := rfl
        priceOracleAggregate := rfl
        mintFee := rfl
        minimumCollateralRatio := rfl
        rewardCollateralRatio := rfl
        decimals := ⟨_, decimalPlacesNumber number, same ▸ decimalPlacesLeast _⟩ }

/-- The turns of a survey stop at the first failure, and only if there is none the words of all
parameters are used. -/
structure AllOrNothing {State : Type} (Ends : List Word → Except Failure A → Prop)
    (parameters : List DefiParameter) (turns : List (Turn State)) (events : List Event)
    (result : Except Failure A) : Prop where
  /-- The parameters are asked in their order. -/
  ordered : turns.map Turn.query <+: parameters.map Query.defi
  /-- No parameter is asked twice. -/
  once : (turns.map Turn.query).Nodup
  /-- After a failure nothing more is asked. It is the result, and it is reported once. -/
  stops : ∀ turn ∈ turns, ∀ failure, turn.answer = .error failure →
    (∃ earlier, turns = earlier ++ [turn] ∧
      ∀ other ∈ earlier, ∃ value, other.answer = .ok value) ∧
    events = [callFailed turn.query.method failure] ∧ result = .error failure
  /-- Without a failure all parameters are asked, nothing is reported and the words that were found
  are used. -/
  completes : (∀ turn ∈ turns, ∃ value, turn.answer = .ok value) →
    ∃ found : List (DefiParameter × Word), found.map Prod.fst = parameters ∧
      turns.map Turn.note = found.map Note.given ∧ events = [] ∧
      Ends (found.map Prod.snd) result

section Found

variable (found : List (DefiParameter × Word))

theorem askedFound : asked (found.map Note.given) = (found.map Prod.fst).map Query.defi := by
  rw [asked, List.filterMap_map, List.map_map]
  exact congrFun List.filterMap_eq_map found

theorem answersFound : (found.map Note.given).filter Note.isAnswer = found.map Note.given := by
  rw [List.filter_map]
  exact congrArg _ (List.filter_true found)

theorem eventsFound : (found.map Note.given).filterMap Note.event? = [] := by
  rw [List.filterMap_map]
  exact List.filterMap_eq_nil_iff.mpr fun _ _ => rfl

variable {found} {State : Type}

/-- Whatever was found is no failure. -/
theorem answerFound {turns : List (Turn State)} {turn : Turn State}
    (answers : turns.map Turn.note = found.map Note.given) (member : turn ∈ turns) :
    ∃ value, turn.answer = .ok value := by
  have note : turn.note ∈ found.map Note.given := answers ▸ List.mem_map_of_mem member
  obtain ⟨pair, _, same⟩ := List.mem_map.mp note
  obtain ⟨query, answer, before, after⟩ := turn
  cases same
  exact ⟨_, rfl⟩

/-- The last turn is the one that failed. -/
theorem lastRefused {turns : List (Turn State)} {which : DefiParameter} {failure : Failure}
    (answers : turns.map Turn.note = found.map Note.given ++ [.refused which failure]) :
    ∃ earlier before after, turns = earlier ++ [⟨.defi which, .error failure, before, after⟩] ∧
      earlier.map Turn.note = found.map Note.given := by
  obtain ⟨earlier, later, rfl, answered, refused⟩ := List.map_eq_append_iff.mp answers
  obtain ⟨turn, rest, rfl, last, none⟩ := List.map_eq_cons_iff.mp refused
  obtain rfl := List.map_eq_nil_iff.mp none
  obtain ⟨query, answer, before, after⟩ := turn
  cases last
  exact ⟨earlier, before, after, rfl, answered⟩

end Found

namespace Surveyed

variable {Ends : List Word → Except Failure A → Prop} {parameters : List DefiParameter}
  {notes : List Note} {result : Except Failure A}

theorem ordered (surveyed : Surveyed Ends parameters notes result) :
    asked notes <+: parameters.map Query.defi := by
  cases surveyed with
  | complete found ends => rw [askedFound]
  | failed found which after failure =>
      rw [askedAppend, askedFound, List.map_append, List.prefix_append_right_inj]
      exact List.prefix_append [_] _

/-- A survey stops at the first failure or finds everything. -/
theorem allOrNothing {State : Type} (surveyed : Surveyed Ends parameters notes result)
    (distinct : parameters.Nodup) {turns : List (Turn State)}
    (answers : notes.filter Note.isAnswer = turns.map Turn.note) :
    AllOrNothing Ends parameters turns (notes.filterMap Note.event?) result := by
  have ordered : turns.map Turn.query <+: parameters.map Query.defi :=
    askedOfTurns answers ▸ surveyed.ordered
  have once : (turns.map Turn.query).Nodup :=
    (distinct.map fun _ _ same => Query.defi.inj same).sublist ordered.sublist
  cases surveyed with
  | complete found ends =>
      rw [answersFound] at answers
      refine ⟨ordered, once, ?_, fun _ => ⟨found, rfl, answers.symm, eventsFound found, ends⟩⟩
      intro turn member failure failed
      obtain ⟨value, answered⟩ := answerFound answers.symm member
      exact absurd (failed.symm.trans answered) nofun
  | failed found which after cause =>
      rw [List.filter_append, answersFound] at answers
      obtain ⟨earlier, before, later, rfl, answered⟩ := lastRefused answers.symm
      refine ⟨ordered, once, ?_, fun sound => ?_⟩
      · intro turn member failure failed
        rcases List.mem_append.mp member with early | last
        · obtain ⟨value, fine⟩ := answerFound answered early
          exact absurd (failed.symm.trans fine) nofun
        · obtain rfl := List.mem_singleton.mp last
          obtain rfl := Except.error.inj failed
          refine ⟨⟨earlier, rfl, fun other => answerFound answered⟩, ?_, rfl⟩
          rw [List.filterMap_append, eventsFound]
          rfl
      · obtain ⟨value, fine⟩ := sound _ (List.mem_append_right _ (List.mem_singleton_self _))
        exact absurd fine nofun

end Surveyed

/-- Without a minter nothing is asked. With a minter the settings are there as a whole, or the first
failure is passed on, and the minter is not asked again. -/
theorem settingsAreAllOrNothing {State : Type} (respond : Responder State)
    (addresses : DefiAddresses) (course : Course State) :
    let finished := run respond (defiSettings addresses) course
    let taken := turns respond (defiSettings addresses) course.state
    Linked respond course.state taken finished.2.state ∧
    finished.2.asked = course.asked ++ taken.map Turn.query ∧
    ∃ events, finished.2.events = course.events ++ events ∧
      match addresses.minter with
      | none => taken = [] ∧ events = [] ∧ finished.1 = .error (.notConfigured "fMint minter")
      | some minter =>
          taken.map (fun turn => turn.query.method) <+:
            ["getFMintFee4dec", "getCollateralLowestDebtRatio4dec",
              "getRewardEligibilityRatio4dec", "fMintFeeDigitsCorrection"] ∧
          AllOrNothing (Assembled addresses minter) DefiParameter.all taken events finished.1 := by
  intro finished taken
  obtain ⟨notes, dialogue, isAsked, events, answers⟩ :=
    Inquiry.runDialogue respond (defiSettings addresses) course
  refine ⟨Inquiry.linked respond (defiSettings addresses) course, ?_, _, events, ?_⟩
  · exact isAsked.trans (congrArg (course.asked ++ ·) (askedOfTurns answers))
  · cases known : addresses.minter with
    | none =>
        have ends : Dialogue (throw (.notConfigured "fMint minter") : Reading DefiSettings) notes
            finished.1 := by
          rw [← defiSettingsUnset known]
          exact dialogue
        obtain ⟨rfl, refused⟩ := Reading.throwIff.mp ends
        exact ⟨List.map_eq_nil_iff.mp answers.symm, rfl, refused⟩
    | some minter =>
        have whole := (defiSettingsSurveys known _ _ dialogue).allOrNothing (by decide) answers
        have methods := whole.ordered.map Query.method
        rw [List.map_map] at methods
        exact ⟨methods, whole⟩

/-- The minter refuses its third parameter. -/
def refusingRewards : Responder Unit
  | .defi .rewardCollateralRatio, _ => (.error (.call "getRewardEligibilityRatio4dec" "reverted"), ())
  | .defi _, _ => (.ok (1 : Word), ())
  | query, _ => (.error (.call query.method "reverted"), ())

example :
    let finished := run refusingRewards (defiSettings { minter := some Address.zero }) ⟨(), [], []⟩
    finished.1 = .error (.call "getRewardEligibilityRatio4dec" "reverted") ∧
      finished.2.asked =
        [.defi .mintFee, .defi .minimumCollateralRatio, .defi .rewardCollateralRatio] := by
  decide

end NodeBridge.Staking
