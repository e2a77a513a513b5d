import NodeBridge.Proofs.Observer.Calls
import NodeBridge.Proofs.Observer.Delivery

/-
This file shows that the signal to stop comes before everything else.
Once it arrives nothing is forwarded and no attempt begins, and the worker comes to its end in
its next turn, unless an attempt is under way, in which case it ends together with that attempt.
-/

namespace NodeBridge.Observer

variable {State Item : Type}

/-- A worker that gets its turn takes steps until it has to wait. -/
inductive Turn (source : Source State Item) : World State Item → World State Item → Prop where
  | rest {world : World State Item} (waits : world.step source = none) : Turn source world world
  | step {world next final : World State Item} (stepped : world.step source = some next)
      (turn : Turn source next final) : Turn source world final

/-- The one turn that is possible here takes no time and brings the worker to its end, in a world
with this outcome. -/
def Concludes (source : Source State Item) (world : World State Item)
    (outcome : World State Item → Prop) : Prop :=
  ∃ final, (∀ other, Turn source world other ↔ other = final) ∧
    (∃ worker, final.worker = some worker ∧ worker.phase = .finished) ∧
    final.clock = world.clock ∧ outcome final

/-- The worker comes to its end with this turn, in which it closes these subscriptions. -/
def Ends (source : Source State Item) (world : World (Noted State Item) Item)
    (closes : List Nat) : Prop :=
  Concludes source.noting world fun final =>
    final.source.closes = world.source.closes ++ closes

variable {source : Source State Item} {remote : State → State → Prop} {capacity : Nat}
  {world next final : World State Item} {worker later : Worker Item}
  {added : List (Happening Item)} {closes : List Nat}

theorem Turn.stepIff (stepped : world.step source = some next) :
    Turn source world final ↔ Turn source next final := by
  constructor
  · intro turn
    cases turn with
    | rest waits =>
        rw [stepped] at waits
        contradiction
    | step first turn =>
        rw [stepped] at first
        exact Option.some.inj first ▸ turn
  · exact .step stepped

theorem Turn.restIff (waits : world.step source = none) :
    Turn source world final ↔ final = world := by
  constructor
  · intro turn
    cases turn with
    | rest => rfl
    | step stepped =>
        rw [waits] at stepped
        contradiction
  · rintro rfl
    exact .rest waits

namespace Concludes

variable {outcome : World State Item → Prop}

/-- A step that takes no time comes before the end. -/
theorem step (concludes : Concludes source next outcome) (stepped : world.step source = some next)
    (clock : next.clock = world.clock) : Concludes source world outcome := by
  obtain ⟨final, turns, finished, sameClock, holds⟩ := concludes
  refine ⟨final, fun other => ?_, finished, sameClock.trans clock, holds⟩
  rw [Turn.stepIff stepped]
  exact turns other

/-- The token ends last. -/
theorem ofEnding (present : world.worker = some worker) (unordered : worker.cancelled = false)
    (phase : worker.phase = .ending) (holds : outcome (world.finish worker)) :
    Concludes source world outcome := by
  refine ⟨world.finish worker, fun other => ?_, ⟨_, rfl, rfl⟩, rfl, holds⟩
  rw [Turn.stepIff (World.stepOfEnding present unordered phase)]
  exact Turn.restIff (World.stepOfFinished rfl unordered rfl)

/-- What is held is closed right before. -/
theorem ofLeaving {held : Option Nat} (present : world.worker = some worker)
    (unordered : worker.cancelled = false) (phase : worker.phase = .leaving held)
    (holds : outcome
      ((world.closeHeld source held worker).finish { worker with phase := .ending })) :
    Concludes source world outcome := by
  have clock : (world.closeHeld source held worker).clock = world.clock := by
    cases held <;> rfl
  have ending : Concludes source (world.closeHeld source held worker) outcome :=
    ofEnding rfl unordered rfl holds
  exact ending.step (World.stepOfLeaving present unordered phase) clock

/-- A worker that heeds the signal leaves its loop before that. -/
theorem ofHeeds (present : world.worker = some worker) (unordered : worker.cancelled = false)
    (heeds : worker.heeds = true) (signal : world.coordinator.signalArrives = true)
    (holds : outcome (((world.leave worker).closeHeld source worker.phase.held?
      { worker with status := .terminating, phase := .leaving worker.phase.held? }).finish
        { worker with status := .terminating, phase := .ending })) :
    Concludes source world outcome := by
  have leaving : Concludes source (world.leave worker) outcome := ofLeaving rfl unordered rfl holds
  exact leaving.step (World.stepOfSignal present unordered heeds signal)
    (World.leaveKeeps worker world).1

end Concludes

namespace Ends

variable {world next : World (Noted State Item) Item}

/-- A step that closes nothing comes before the end. -/
theorem step (ends : Ends source next closes) (stepped : world.step source.noting = some next)
    (clock : next.clock = world.clock) (closed : next.source.closes = world.source.closes) :
    Ends source world closes := by
  have concludes : Concludes source.noting world fun final =>
      final.source.closes = next.source.closes ++ closes := Concludes.step ends stepped clock
  rw [closed] at concludes
  exact concludes

theorem ofEnding (present : world.worker = some worker) (unordered : worker.cancelled = false)
    (phase : worker.phase = .ending) : Ends source world [] :=
  Concludes.ofEnding present unordered phase (List.append_nil _).symm

theorem ofLeaving {held : Option Nat} (present : world.worker = some worker)
    (unordered : worker.cancelled = false) (phase : worker.phase = .leaving held) :
    Ends source world held.toList :=
  Concludes.ofLeaving present unordered phase (World.closesCloseHeld source held worker world)

theorem ofHeeds (present : world.worker = some worker) (unordered : worker.cancelled = false)
    (heeds : worker.heeds = true) (signal : world.coordinator.signalArrives = true)
    (held : worker.phase.held?.toList = closes) : Ends source world closes := by
  obtain ⟨_, _, state, _⟩ := World.leaveKeeps worker world
  refine Concludes.ofHeeds present unordered heeds signal ?_
  rw [← held, ← state]
  exact World.closesCloseHeld source worker.phase.held? _ (world.leave worker)

/-- Without an attempt under way the end comes with this turn. -/
theorem ofSignal (present : world.worker = some worker) (unordered : worker.cancelled = false)
    (signal : world.coordinator.signalArrives = true) (begun : worker.phase ≠ .created)
    (unasked : worker.phase ≠ .opening) (going : worker.phase.isOver = false) :
    Ends source world worker.phase.held?.toList := by
  by_cases heeds : worker.heeds = true
  · exact ofHeeds present unordered heeds signal rfl
  · cases phase : worker.phase with
    | handing number item =>
        -- The feed is closed, so the item is ignored before the worker looks at the signal.
        have shut : worker.feedClosed = true := by simpa [Worker.heeds, phase] using heeds
        let after := (world.record worker.topic (.ignored item)).setWorker
          { worker with phase := .watching number }
        have stepped : world.step source.noting = some after := by
          simp [World.step, World.proceed, present, unordered, phase, shut, after]
        have ends : Ends source after [number] := ofHeeds rfl unordered rfl signal rfl
        exact ends.step stepped rfl rfl
    | leaving held => exact ofLeaving present unordered phase
    | ending => exact ofEnding present unordered phase
    | _ => simp_all [Worker.heeds, Phase.isOver]

/-- An answer closes nothing. -/
theorem closesAnswer {noted after : Noted State Item} {outcome : Except OpenError String}
    {now : Nat} (completed : source.noting.completion? now noted = some (outcome, after)) :
    after.closes = noted.closes := by
  rw [Noted.closes, (Source.notesAnswer completed).2, List.filterMap_append]
  exact List.append_nil _

/-- An attempt that succeeds after the signal leaves a subscription that is closed at once. -/
theorem ofSubscribed {topic : String} {state : Noted State Item}
    (present : world.worker = some worker) (unordered : worker.cancelled = false)
    (signal : world.coordinator.signalArrives = true) (phase : worker.phase = .opening)
    (completed : source.noting.completion? world.clock world.source = some (.ok topic, state)) :
    Ends source world [worker.opened] := by
  let after := { world with source := state }.subscribed topic worker
  have stepped : world.step source.noting = some after := by
    simp [World.step, World.proceed, present, unordered, phase, completed, after]
  have ends : Ends source after [worker.opened] := ofHeeds rfl unordered rfl signal rfl
  exact ends.step stepped rfl (closesAnswer completed)

/-- After an attempt that fails nothing is left to close. -/
theorem ofRefused {error : OpenError} {state : Noted State Item}
    (present : world.worker = some worker) (unordered : worker.cancelled = false)
    (signal : world.coordinator.signalArrives = true) (phase : worker.phase = .opening)
    (completed : source.noting.completion? world.clock world.source =
      some (.error error, state)) : Ends source world [] := by
  let after := { world with source := state }.refused error worker
  have stepped : world.step source.noting = some after := by
    simp [World.step, World.proceed, present, unordered, phase, completed, after]
  have ends : Ends source after [] := ofHeeds rfl unordered rfl signal rfl
  exact ends.step stepped rfl (closesAnswer completed)

end Ends

/-- A step after the signal forwards nothing, and only a worker that has not started begins an
attempt with it. -/
theorem WorkerStep.afterSignal (step : WorkerStep source worker world added next)
    (there : next.worker = some later) (signal : world.coordinator.signalArrives = true) :
    next.forwarded = world.forwarded ∧ later.phase ≠ .created ∧
      (worker.phase ≠ .created ∧ next.attempts = world.attempts ∨
        worker.phase = .created ∧ next.attempts = world.attempts ++ [world.clock]) := by
  obtain ⟨_, forwarded, _⟩ := World.itemsAdded step.chronicle
  cases step with
  | start phase =>
      obtain rfl := Option.some.inj there
      refine ⟨forwarded.trans (List.append_nil _), by simp, .inr ⟨phase, ?_⟩⟩
      simp [World.beginOpen, World.record, World.attempts, World.setWorker]
  | subscribe phase =>
      obtain rfl := Option.some.inj there
      refine ⟨forwarded.trans (List.append_nil _), by simp, .inl ⟨by simp [phase], ?_⟩⟩
      simp [World.subscribed]
  | refuse phase =>
      obtain rfl := Option.some.inj there
      refine ⟨forwarded.trans (List.append_nil _), by simp, .inl ⟨by simp [phase], ?_⟩⟩
      simp [World.refused, World.beginPause]
  | ignore phase =>
      obtain rfl := Option.some.inj there
      refine ⟨forwarded.trans (List.append_nil _), by simp, .inl ⟨by simp [phase], ?_⟩⟩
      simp
  | leave heeds =>
      obtain rfl := Option.some.inj there
      rw [(itemsParting worker).2.1, List.append_nil] at forwarded
      refine ⟨forwarded, by simp, .inl ⟨?_, World.attemptsLeave worker world⟩⟩
      intro created
      simp [Worker.heeds, created] at heeds
  | close phase | spare phase | finish phase =>
      obtain rfl := Option.some.inj there
      refine ⟨forwarded.trans (List.append_nil _), by simp, .inl ⟨by simp [phase], ?_⟩⟩
      simp [World.closeHeld, World.finish, World.attempts, World.record, World.setWorker,
        World.report]
  | retry _ quiet | deliver _ quiet | remark _ quiet | fail _ quiet | offer _ _ quiet
  | poll _ quiet =>
      rw [signal] at quiet
      contradiction

/-- Whatever happens after the signal, nothing is forwarded and no attempt begins.
Only the first attempt of a worker that has not started is still made. -/
theorem Reachable.afterSignal (reached : Reachable source remote capacity world)
    (present : world.worker = some worker) (signal : world.coordinator.signalArrives = true)
    (run : Run source remote world final) :
    final.coordinator.signalArrives = true ∧ final.forwarded = world.forwarded ∧
      ∀ later, final.worker = some later →
        (later.phase = .created ∧ worker.phase = .created ∧ final.attempts = world.attempts) ∨
        (later.phase ≠ .created ∧ (final.attempts = world.attempts ∨
          worker.phase = .created ∧ ∃ time, final.attempts = world.attempts ++ [time])) := by
  induction run with
  | refl =>
      refine ⟨signal, rfl, ?_⟩
      intro later there
      obtain rfl := Option.some.inj (present.symm.trans there)
      by_cases created : worker.phase = .created
      · exact .inl ⟨created, created, rfl⟩
      · exact .inr ⟨created, .inl rfl⟩
  | tail run move inductionHypothesis =>
      obtain ⟨arrives, forwarded, before⟩ := inductionHypothesis
      obtain ⟨middle, there, unordered⟩ := (reached.run run).staffed
      have asked := before middle there
      cases move with
      | work stepped =>
          obtain ⟨added, step⟩ := World.stepCases there unordered stepped
          obtain ⟨next, thereNext, _⟩ := step.staffed there
          obtain ⟨sameForwarded, begun, attempts⟩ := step.afterSignal thereNext arrives
          refine ⟨step.signalStays arrives, sameForwarded.trans forwarded, ?_⟩
          intro later same
          obtain rfl := Option.some.inj (thereNext.symm.trans same)
          refine .inr ⟨begun, ?_⟩
          rcases asked with ⟨created, createdFirst, before⟩ | ⟨started, before⟩
          · rcases attempts with ⟨started, _⟩ | ⟨_, more⟩
            · exact absurd created started
            · exact .inr ⟨createdFirst, _, before ▸ more⟩
          · rcases attempts with ⟨_, same⟩ | ⟨created, _⟩
            · exact same ▸ before
            · exact absurd created started
      | outside moved =>
          obtain ⟨items, taken⟩ := moved.chronicleAdds
          obtain ⟨⟨_, sameForwarded, _⟩, _⟩ := World.keptByTaking taken
          refine ⟨moved.signalStays arrives, sameForwarded.trans forwarded, ?_⟩
          rw [moved.workerSame, moved.attemptsSame]
          exact before

/-- After the signal the feed is only emptied. -/
theorem Reachable.drained (reached : Reachable source remote capacity world)
    (present : world.worker = some worker) (signal : world.coordinator.signalArrives = true)
    (run : Run source remote world final) :
    final.channel.buffer.toList <:+ world.channel.buffer.toList := by
  induction run with
  | refl => exact List.suffix_rfl
  | tail run move inductionHypothesis =>
      have reachedMiddle := reached.run run
      obtain ⟨middle, there, unordered⟩ := reachedMiddle.staffed
      cases move with
      | work stepped =>
          obtain ⟨added, step⟩ := World.stepCases there unordered stepped
          obtain ⟨next, thereNext, _⟩ := step.staffed there
          obtain ⟨arrives, _⟩ := reached.afterSignal present signal run
          obtain ⟨sameForwarded, _⟩ := step.afterSignal thereNext arrives
          obtain ⟨_, forwarded, _⟩ := World.itemsAdded step.chronicle
          have nothing := List.append_right_eq_self.mp (forwarded.symm.trans sameForwarded)
          rw [(reachedMiddle.flow there).fills step, nothing, List.append_nil]
          exact inductionHypothesis
      | outside moved => exact moved.drains.trans inductionHypothesis

/-- This is the order between the signal and everything else. -/
structure SignalFirst (source : Source State Item) (remote : State → State → Prop)
    (worker : Worker Item) (world : World (Noted State Item) Item) : Prop where
  /-- The source was called exactly as the chronicle says. -/
  told : world.source.calls = world.chronicle.filterMap (Happening.call? worker.topic)
  /-- No failure and no closed feed brings a worker out of its loop, but only the signal. -/
  onlyCause : worker.phase.hasLeft = true → world.coordinator.signalArrives = true
  /-- After the signal the feed gets nothing and no attempt begins, but for the very first. -/
  nothingMore : world.coordinator.signalArrives = true →
    ∀ final, Run source.noting (Noting remote) world final →
      final.forwarded = world.forwarded ∧
      final.channel.buffer.toList <:+ world.channel.buffer.toList ∧
      (final.attempts = world.attempts ∨
        worker.phase = .created ∧ ∃ time, final.attempts = world.attempts ++ [time])
  /-- Without an attempt under way the next turn is the last, whatever is ready or awaited. -/
  atOnce : world.coordinator.signalArrives = true → worker.phase ≠ .created →
    worker.phase ≠ .opening → worker.phase ≠ .finished →
    Ends source world worker.phase.held?.toList
  /-- An attempt under way is awaited, and its completion brings the end in the same turn. -/
  underWay : world.coordinator.signalArrives = true → worker.phase = .opening →
    (source.noting.completion? world.clock world.source = none →
      world.step source.noting = none) ∧
    (∀ topic state,
      source.noting.completion? world.clock world.source = some (.ok topic, state) →
        Ends source world [worker.opened]) ∧
    ∀ error state,
      source.noting.completion? world.clock world.source = some (.error error, state) →
        Ends source world []
  /-- A worker that has not started makes its first attempt in any case. -/
  unstarted : worker.phase = .created → ∃ next later, world.step source.noting = some next ∧
    next.worker = some later ∧ later.phase = .opening ∧ next.clock = world.clock ∧
    next.attempts = world.attempts ++ [world.clock]

/-- The signal comes before deliveries, failures, delays and full feeds. -/
theorem signalComesFirst {world : World (Noted State Item) Item}
    (heard : Overheard source remote capacity world) (present : world.worker = some worker) :
    SignalFirst source remote worker world := by
  have reached := heard.reachable
  have unordered := reached.unordered present
  refine ⟨heard.told present, fun left => (reached.leftBySignal present left).2, ?_, ?_, ?_, ?_⟩
  · intro signal final run
    obtain ⟨_, forwarded, attempts⟩ := reached.afterSignal present signal run
    obtain ⟨later, there, _⟩ := (reached.run run).staffed
    refine ⟨forwarded, reached.drained present signal run, ?_⟩
    rcases attempts later there with ⟨_, _, same⟩ | ⟨_, asked⟩
    · exact .inl same
    · exact asked
  · intro signal begun unasked unfinished
    refine Ends.ofSignal present unordered signal begun unasked ?_
    cases isOver : worker.phase.isOver with
    | false => rfl
    | true => exact absurd (reached.endedBySignal present isOver).1 unfinished
  · intro signal phase
    refine ⟨?_, fun _ _ => Ends.ofSubscribed present unordered signal phase,
      fun _ _ => Ends.ofRefused present unordered signal phase⟩
    intro waits
    simp [World.step, World.proceed, present, unordered, phase, waits]
  · intro phase
    refine ⟨(world.record worker.topic .started).beginOpen source.noting worker, _, ?_, rfl, rfl,
      rfl, ?_⟩
    · simp [World.step, World.proceed, present, unordered, phase]
    · simp [World.beginOpen, World.record, World.attempts, World.setWorker]

/-- The signal arrives at the beginning of half a minute of waiting. -/
def deferred : World (Noted (Script Nat) Nat) Nat :=
  let idle : World (Noted (Script Nat) Nat) Nat :=
    { source := { state := { plan := [{ verdict := .refused "busy" }] } } }
  ((idle.spawn "heads" .standard 0).settle Script.source.noting).trigger

theorem deferredOverheard : Overheard Script.source Eq 0 deferred := by
  have attends (clock : Nat) (noted : Noted (Script Nat) Nat) :
      Noting Eq noted (Script.source.noting.attend clock noted) := ⟨rfl, rfl⟩
  refine .trigger ?_ rfl
  exact .run (.start rfl rfl .new "heads" .standard) (Run.settle attends _)

/-- The worker does not wait any longer, and it makes no second attempt. -/
theorem signalComesFirstDeferred : Ends Script.source deferred [] ∧
    ∀ final, Run Script.source.noting (Noting Eq) deferred final → final.attempts = [0] := by
  obtain ⟨worker, present, phase⟩ : ∃ worker, deferred.worker = some worker ∧
      worker.phase = .pausing 30000 := ⟨_, rfl, rfl⟩
  have first := signalComesFirst deferredOverheard present
  have ends := first.atOnce rfl (by simp [phase]) (by simp [phase]) (by simp [phase])
  rw [phase] at ends
  refine ⟨ends, ?_⟩
  intro final run
  rcases (first.nothingMore rfl final run).2.2 with same | ⟨created, _⟩
  · exact same
  · simp [phase] at created

end NodeBridge.Observer
