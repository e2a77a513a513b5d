import NodeBridge.Proofs.Staking.Accessor
import NodeBridge.Proofs.Staking.Dialogue

/-
This file says which queries a reading asks.
A reading that comes to its end has asked all its queries, and one that fails has asked the first
of them.
-/

namespace NodeBridge.Staking

/-- These are the queries of a dialogue. -/
def asked (notes : List Note) : List Query := notes.filterMap Note.query?

/-- A reading asks these queries one after the other until one fails. -/
def Asks {A : Type} (reading : Reading A) (queries : List Query) : Prop :=
  ∀ notes result, Dialogue reading notes result →
    asked notes <+: queries ∧ ∀ value, result = .ok value → asked notes = queries

variable {A B : Type} {queries later : List Query}

theorem askedAppend (before after : List Note) :
    asked (before ++ after) = asked before ++ asked after :=
  List.filterMap_append

/-- Nothing that is only reported is asked. -/
theorem askedOfAnswers (notes : List Note) : asked (notes.filter Note.isAnswer) = asked notes := by
  rw [asked, asked, List.filterMap_filter]
  congr 1
  funext note
  cases note <;> rfl

/-- What was asked can be read off the turns of a session. -/
theorem askedOfTurns {State : Type} {notes : List Note} {turns : List (Inquiry.Turn State)}
    (answers : notes.filter Note.isAnswer = turns.map Inquiry.Turn.note) :
    asked notes = turns.map Inquiry.Turn.query := by
  rw [← askedOfAnswers, answers, asked, List.filterMap_map]
  exact congrFun List.filterMap_eq_map turns

namespace Asks

theorem done (value : A) : Asks (pure value) [] := by
  intro notes result dialogue
  obtain ⟨rfl, rfl⟩ := Reading.pureIff.mp dialogue
  exact ⟨List.nil_prefix, fun _ _ => rfl⟩

theorem throw (failure : Failure) : Asks (MonadExcept.throw failure : Reading A) queries := by
  intro notes result dialogue
  obtain ⟨rfl, rfl⟩ := Reading.throwIff.mp dialogue
  exact ⟨List.nil_prefix, nofun⟩

theorem lift (outcome : Except Failure A) : Asks (liftM outcome) [] := by
  intro notes result dialogue
  obtain ⟨rfl, rfl⟩ := Reading.liftIff.mp dialogue
  exact ⟨List.nil_prefix, fun _ _ => rfl⟩

theorem report (event : Event) : Asks (Reading.report event) [] := by
  intro notes result dialogue
  obtain ⟨rfl, rfl⟩ := Reading.reportIff.mp dialogue
  exact ⟨List.nil_prefix, fun _ _ => rfl⟩

theorem query (query : Query) : Asks (Reading.query query) [query] := by
  intro notes result dialogue
  obtain rfl := Reading.queryIff.mp dialogue
  exact ⟨List.prefix_rfl, fun _ _ => rfl⟩

theorem bind {first : Reading A} {next : A → Reading B} (begins : Asks first queries)
    (goesOn : ∀ value, Asks (next value) later) : Asks (first >>= next) (queries ++ later) := by
  intro notes result dialogue
  obtain ⟨failure, begun, rfl⟩ | ⟨before, value, after, begun, rest, rfl⟩ :=
    Reading.bindIff.mp dialogue
  · exact ⟨(begins _ _ begun).1.trans (List.prefix_append queries later), nofun⟩
  · rw [askedAppend, (begins _ _ begun).2 value rfl]
    obtain ⟨some, all⟩ := goesOn value _ _ rest
    exact ⟨(List.prefix_append_right_inj queries).mpr some,
      fun final same => congrArg (queries ++ ·) (all final same)⟩

/-- A report about a failure is no query. -/
theorem reporting {reading : Reading A} (event : Failure → Event) (asks : Asks reading queries) :
    Asks (Reading.reporting event reading) queries := by
  intro notes result dialogue
  obtain ⟨value, begun, rfl⟩ | ⟨before, failure, begun, rfl, rfl⟩ :=
    Reading.reportingIff.mp dialogue
  · exact asks _ _ begun
  · have same : asked (before ++ [.reported (event failure)]) = asked before :=
      (askedAppend before _).trans (List.append_nil _)
    rw [same]
    exact ⟨(asks _ _ begun).1, nofun⟩

end Asks

theorem parameterAsks (which : Parameter) : Asks (parameter which) [.parameter which] :=
  (Asks.query _).reporting _

theorem smallParameterAsks (which : Parameter) : Asks (smallParameter which) [.parameter which] :=
  (parameterAsks which).bind fun _ => .lift _

theorem defiParameterAsks (which : DefiParameter) : Asks (defiParameter which) [.defi which] :=
  (Asks.query _).reporting _

theorem defiSettingsAsks (addresses : DefiAddresses) :
    Asks (defiSettings addresses) Accessor.defiSettings.queries := by
  rw [defiSettings]
  split
  · exact (defiParameterAsks _).bind fun _ => (defiParameterAsks _).bind fun _ =>
      (defiParameterAsks _).bind fun _ => (defiParameterAsks _).bind fun _ =>
      (Asks.lift _).bind fun _ => .done _
  · exact .throw _

theorem unlockPenaltyAsks (delegator : Address) (validator amount : Word) :
    Asks (unlockPenalty delegator validator amount) [.unlockPenalty delegator validator amount] := by
  refine ((Asks.query _).reporting _).bind fun data => ?_
  dsimp only
  split
  · have ends (failure : Failure) : Asks (MonadExcept.throw failure : Reading PUnit) [] := .throw _
    exact (Asks.report _).bind fun _ => (ends _).bind fun _ => .done _
  · exact .done _

/-- What is done about a failure needs no other query. -/
theorem pendingRewardsAsks (delegator : Address) (validator : Word) :
    Asks (pendingRewards delegator validator) [.pendingRewards delegator validator] := by
  have direct := (Asks.query (.pendingRewards delegator validator)).bind fun amount =>
    Asks.done (⟨delegator, validator, amount⟩ : PendingRewards)
  intro notes result dialogue
  obtain ⟨value, begun, rfl⟩ | ⟨before, failure, after, begun, rest, rfl⟩ :=
    Reading.catchIff.mp dialogue
  · exact direct _ _ begun
  · obtain ⟨cause, asks, _⟩ | ⟨_, _, _, _, impossible, _⟩ := Reading.bindIff.mp begun
    · obtain rfl := Reading.queryIff.mp asks
      have quiet := ((Asks.report _).bind fun _ => Asks.done _) _ _ rest
      rw [askedAppend, List.eq_nil_of_prefix_nil quiet.1]
      exact ⟨List.prefix_rfl, fun _ _ => rfl⟩
    · exact absurd (Reading.pureIff.mp impossible).2 nofun

namespace Accessor

/-- Every reading asks its own queries. -/
theorem asks (addresses : DefiAddresses) (accessor : Accessor) :
    Asks (accessor.reading addresses) accessor.queries := by
  cases accessor with
  | version => exact ((Asks.query _).reporting _).bind fun _ => .done _
  | currentEpoch | currentSealedEpoch => exact smallParameterAsks _
  | epoch id => exact ((Asks.query _).reporting _).bind fun _ => (Asks.lift _).bind fun _ => .done _
  | rewardsAllowed => exact (Asks.report _).bind fun _ => .done _
  | lockingAllowed => exact (smallParameterAsks _).bind fun _ => .done _
  | totalStaked | minimumValidatorStake | maximumDelegatedRatio | minimumLockupDuration
  | maximumLockupDuration | withdrawalPeriodEpochs | withdrawalPeriodTime =>
      exact parameterAsks _
  | amountStaked delegator validator => exact (Asks.report _).bind fun _ => .query _
  | amountLocked delegator validator | amountUnlocked delegator validator => exact .query _
  | unlockPenalty delegator validator amount => exact unlockPenaltyAsks _ _ _
  | pendingRewards delegator validator => exact pendingRewardsAsks _ _
  | delegationLock delegator validator =>
      exact ((Asks.query _).reporting _).bind fun _ => (Asks.lift _).reporting _
  | outstandingToken delegator validator | withdrawalAllowed delegator validator =>
      exact (Asks.report _).bind fun _ => (Asks.query _).reporting _
  | defiSettings => exact defiSettingsAsks addresses

/-- The contract of a reading is the contract of each of its queries. -/
theorem contractOfQuery {accessor : Accessor} {query : Query} (member : query ∈ accessor.queries) :
    query.contract = accessor.contract := by
  cases accessor with
  | rewardsAllowed => exact absurd member List.not_mem_nil
  | defiSettings =>
      have every : ∀ query ∈ defiSettings.queries, query.contract = .minter := by decide
      exact every query member
  | _ => rw [List.mem_singleton.mp member]; rfl

end Accessor

end NodeBridge.Staking
