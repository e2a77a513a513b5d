import NodeBridge.Proofs.Heads.Closing

/-
This file lets everybody act in any order while somebody waits for the end of an observer.
Time passes only while all sleep, and no timer is missed.
-/

namespace NodeBridge.Heads

open Observer
open Shutdown (Action Coordinator Waiter)

/-- The worker, the one who waits and the clock bring the end closer, and these moves are marked.
The node, the consumer and others with the coordinator act in between, but they get no token. -/
inductive CloseMove (pubsub : Bool) (limit : Duration) (index : Nat) (scene : Scene) :
    Bool → Scene → Prop where
  | work {next : Scene} (stepped : scene.step (source pubsub limit) = some next) :
      CloseMove pubsub limit index scene true next
  | look {waiter : Waiter} (found : scene.coordinator.waiters[index]? = some waiter)
      (scheduled : waiter.phase = .scheduled) :
      CloseMove pubsub limit index scene true (scene.act (.look index))
  | elapse {waiter : Waiter} {time : Nat}
      (found : scene.coordinator.waiters[index]? = some waiter)
      (sleeps : waiter.phase = .parked) (rests : scene.step (source pubsub limit) = none)
      (later : scene.clock < time)
      (exact : ∀ deadline, waiter.deadline = some deadline ∨
        scene.source.attempt.bind Holder.deadline? = some deadline → time ≤ deadline) :
      CloseMove pubsub limit index scene true ((scene.jump time).act .wakeDue)
  | other {next : Scene} (moved : Outside Remote scene next) (still : next.clock = scene.clock)
      (unissued : next.coordinator.tokens.length = scene.coordinator.tokens.length) :
      CloseMove pubsub limit index scene false next

/-- A run counts the moves that bring the end closer. -/
inductive CloseRun (pubsub : Bool) (limit : Duration) (index : Nat) (scene : Scene) :
    Nat → Scene → Prop where
  | refl : CloseRun pubsub limit index scene 0 scene
  | tail {count : Nat} {progress : Bool} {middle final : Scene}
      (run : CloseRun pubsub limit index scene count middle)
      (move : CloseMove pubsub limit index middle progress final) :
      CloseRun pubsub limit index scene (count + progress.toNat) final

/-- One run goes on where the other one ends. -/
theorem CloseRun.append {pubsub : Bool} {limit : Duration} {index before after : Nat}
    {scene middle final : Scene} (run : CloseRun pubsub limit index scene before middle)
    (rest : CloseRun pubsub limit index middle after final) :
    CloseRun pubsub limit index scene (before + after) final := by
  induction rest with
  | refl => exact run
  | tail _ move inductionHypothesis =>
      rw [← Nat.add_assoc]
      exact .tail inductionHypothesis move

/-- Somebody waits until this deadline, he sleeps only while a token is held, and he has success
only when none is outstanding. -/
structure Awaited (limit : Duration) (last deadline index : Nat) (scene : Scene)
    (phase : Shutdown.Phase) : Prop where
  closing : Closing limit last scene
  longer : ∀ worker, scene.worker = some worker → last < deadline
  waiter : ∃ span, scene.coordinator.waiters[index]? = some ⟨some span, some deadline, phase⟩
  sleeps : phase = .parked → ∃ token : Nat, scene.coordinator.tokens[token]? = some true
  clean : phase ≠ .returned false
  success : phase = .returned true → scene.coordinator.outstanding = 0

/-- Every marked move makes this smaller, and no other move makes it larger. -/
def rank (last : Nat) (scene : Scene) (phase : Shutdown.Phase) : Nat :=
  2 * stepsLeft scene + (if phase = .scheduled then 1 else 0) + (last - scene.clock)

variable {pubsub : Bool} {limit : Duration} {last deadline index : Nat} {scene next : Scene}
  {phase : Shutdown.Phase}

/-- Acting on the coordinator without touching a token leaves the worker alone. -/
theorem Closing.act {action : Action} (closing : Closing limit last scene)
    (tokens : (scene.act action).coordinator.tokens = scene.coordinator.tokens) :
    Closing limit last (scene.act action) where
  triggered := Coordinator.triggeredKept scene.clock action closing.triggered
  balanced := Coordinator.balancedPerform closing.balanced scene.clock action
  inTime := closing.inTime
  sole := tokens ▸ closing.sole
  bounded worker present :=
    have bounded := closing.bounded worker present
    have held : TokenHeld worker (scene.act action) := by
      rw [TokenHeld, tokens]
      exact bounded.token
    ⟨bounded.unordered, bounded.unstopped, held, bounded.unstarted, bounded.asked⟩

namespace Awaited

/-- As long as a token is held the deadline is still to come. -/
theorem early {token : Nat} (awaited : Awaited limit last deadline index scene phase)
    (held : scene.coordinator.tokens[token]? = some true) : ¬ deadline ≤ scene.clock := by
  obtain ⟨worker, present, _⟩ := awaited.closing.sole token held
  have inTime := awaited.closing.inTime
  have longer := awaited.longer worker present
  omega

/-- Whoever looks returns with success once nothing is outstanding and goes to sleep before.
He has nothing to report. -/
theorem look (awaited : Awaited limit last deadline index scene .scheduled) :
    ∃ phase, Awaited limit last deadline index (scene.act (.look index)) phase ∧
      phase ≠ .scheduled ∧ (scene.coordinator.poll scene.clock index).2 = [] := by
  obtain ⟨span, found⟩ := awaited.waiter
  have tokens : (scene.act (.look index)).coordinator.tokens = scene.coordinator.tokens :=
    Coordinator.tokensPoll scene.coordinator scene.clock index
  have closing : Closing limit last (scene.act (.look index)) :=
    awaited.closing.act tokens
  have looked : (scene.act (.look index)).coordinator.waiters[index]? =
      some ⟨some span, some deadline,
        (scene.coordinator.look scene.clock ⟨some span, some deadline, .scheduled⟩).1⟩ := by
    have polled := Coordinator.waiterPoll scene.coordinator scene.clock index index
    rw [found, Option.map_some, if_pos rfl] at polled
    exact polled
  by_cases nobody : scene.coordinator.outstanding = 0
  · have returns : (scene.coordinator.look scene.clock
        ⟨some span, some deadline, .scheduled⟩).1 = .returned true := by
      simp [Coordinator.look, nobody]
    rw [returns] at looked
    have still : (scene.act (.look index)).coordinator.outstanding = 0 :=
      (Coordinator.outstandingPoll scene.coordinator scene.clock index).trans nobody
    have silent : (scene.coordinator.poll scene.clock index).2 = [] := by
      simp [Coordinator.poll, found, Coordinator.look, nobody]
    exact ⟨_, ⟨closing, awaited.longer, ⟨span, looked⟩, by simp, by simp, fun _ => still⟩, by simp,
      silent⟩
  · obtain ⟨token, held⟩ := awaited.closing.balanced.holds nobody
    have parks : (scene.coordinator.look scene.clock
        ⟨some span, some deadline, .scheduled⟩).1 = .parked := by
      simp [Coordinator.look, nobody, awaited.early held]
    rw [parks] at looked
    have silent : (scene.coordinator.poll scene.clock index).2 = [] := by
      simp [Coordinator.poll, found, Coordinator.look, nobody, awaited.early held]
    exact ⟨_, ⟨closing, awaited.longer, ⟨span, looked⟩, fun _ => ⟨token, tokens ▸ held⟩,
      by simp, by simp⟩, by simp, silent⟩

/-- Time that passes before the deadline wakes nobody. -/
theorem notDue {span : Duration} (awaited : Awaited limit last deadline index scene phase) :
    Coordinator.wakeAt scene.clock ⟨some span, some deadline, phase⟩ =
      ⟨some span, some deadline, phase⟩ := by
  -- Whoever does not sleep cannot be woken, even if his deadline has passed.
  by_cases parked : phase = .parked
  · obtain ⟨token, held⟩ := awaited.sleeps parked
    simp [Coordinator.wakeAt, awaited.early held]
  · simp [Coordinator.wakeAt, Coordinator.wakeUp, parked]

theorem wakeDue (awaited : Awaited limit last deadline index scene phase) :
    Awaited limit last deadline index (scene.act .wakeDue) phase := by
  obtain ⟨span, found⟩ := awaited.waiter
  have woken : (scene.act .wakeDue).coordinator.waiters[index]? =
      (scene.coordinator.waiters[index]?).map (Coordinator.wakeAt scene.clock) := by
    simp [World.act, World.report, Coordinator.perform, Coordinator.wakeDue]
  rw [found, Option.map_some, awaited.notDue] at woken
  exact ⟨awaited.closing.act rfl, awaited.longer, ⟨span, woken⟩, awaited.sleeps,
    awaited.clean, awaited.success⟩

/-- What others do to the coordinator neither ends the token of the worker nor reaches the one
who waits, unless it is his own turn to look. -/
theorem act {action : Action} (awaited : Awaited limit last deadline index scene phase)
    (foreign : ∀ worker, scene.worker = some worker → action ≠ .finish worker.token)
    (unissued : (scene.act action).coordinator.tokens.length =
      scene.coordinator.tokens.length) :
    ∃ after, Awaited limit last deadline index (scene.act action) after ∧
      (after = .scheduled → phase = .scheduled) := by
  obtain ⟨span, found⟩ := awaited.waiter
  cases action with
  | issue =>
      simp [World.act, World.report, Coordinator.perform, Coordinator.issue] at unissued
  | finish token =>
      have missing : scene.coordinator.tokens[token]? ≠ some true := by
        intro held
        obtain ⟨worker, present, rfl, _⟩ := awaited.closing.sole token held
        exact foreign worker present rfl
      have same : (scene.act (.finish token)).coordinator = scene.coordinator :=
        Coordinator.finishMissing missing
      exact ⟨phase, ⟨awaited.closing.act (same ▸ rfl), awaited.longer,
        ⟨span, same ▸ found⟩, same ▸ awaited.sleeps, awaited.clean, same ▸ awaited.success⟩, id⟩
  | trigger | drop =>
      exact ⟨phase, ⟨awaited.closing.act rfl, awaited.longer, ⟨span, found⟩,
        awaited.sleeps, awaited.clean, awaited.success⟩, id⟩
  | startWait other =>
      have inside := (List.getElem?_eq_some_iff.mp found).1
      have kept : (scene.act (.startWait other)).coordinator.waiters[index]? =
          scene.coordinator.waiters[index]? := List.getElem?_append_left inside
      exact ⟨phase, ⟨awaited.closing.act rfl, awaited.longer, ⟨span, kept.trans found⟩,
        awaited.sleeps, awaited.clean, awaited.success⟩, id⟩
  | look other =>
      by_cases own : other = index ∧ phase = .scheduled
      · obtain ⟨rfl, rfl⟩ := own
        obtain ⟨after, looked, _⟩ := awaited.look
        exact ⟨after, looked, fun _ => rfl⟩
      · have tokens : (scene.act (.look other)).coordinator.tokens = scene.coordinator.tokens :=
          Coordinator.tokensPoll scene.coordinator scene.clock other
        have polled := Coordinator.waiterPollKept found scene.clock other own
        have outstanding : (scene.act (.look other)).coordinator.outstanding =
            scene.coordinator.outstanding :=
          Coordinator.outstandingPoll scene.coordinator scene.clock other
        exact ⟨phase, ⟨awaited.closing.act tokens, awaited.longer, ⟨span, polled⟩,
          tokens ▸ awaited.sleeps, awaited.clean, outstanding ▸ awaited.success⟩, id⟩
  | wakeDue => exact ⟨phase, awaited.wakeDue, id⟩

/-- The worker makes its way, and its end wakes the one who sleeps. -/
theorem work (awaited : Awaited limit last deadline index scene phase)
    (stepped : scene.step (source pubsub limit) = some next) :
    ∃ after, Awaited limit last deadline index next after ∧
      rank last next after < rank last scene phase := by
  obtain ⟨closing, fewer, clock, coordinator⟩ := awaited.closing.work stepped
  obtain ⟨span, found⟩ := awaited.waiter
  have longer : ∀ worker, next.worker = some worker → last < deadline := by
    cases present : scene.worker with
    | none => simp [World.step, present] at stepped
    | some worker => exact fun _ _ => awaited.longer worker present
  have unchanged : next.coordinator = scene.coordinator →
      ∃ after, Awaited limit last deadline index next after ∧
        rank last next after < rank last scene phase := by
    intro same
    refine ⟨phase, ⟨closing, longer, ⟨span, same ▸ found⟩, same ▸ awaited.sleeps,
      awaited.clean, same ▸ awaited.success⟩, ?_⟩
    simp only [rank, clock]
    omega
  rcases coordinator with same | ⟨token, ended⟩
  · exact unchanged same
  · by_cases held : scene.coordinator.tokens[token]? = some true
    · have woken := Coordinator.waiterFinish held index
      rw [← ended, found, Option.map_some] at woken
      cases phase with
      | returned result =>
          -- Whoever has returned with success has seen that no token is left to end.
          have success (clean : Shutdown.Phase.returned result = .returned true) :
              next.coordinator.outstanding = 0 := by
            have unheld := (awaited.closing.allOver (awaited.success clean)).unheld
            exact absurd held (unheld token)
          refine ⟨.returned result, ⟨closing, longer, ⟨span, woken⟩, by simp, awaited.clean,
            success⟩, ?_⟩
          simp only [rank, clock]
          omega
      | scheduled | parked =>
          refine ⟨.scheduled, ⟨closing, longer, ⟨span, woken⟩, by simp, by simp, by simp⟩, ?_⟩
          simp only [rank, clock, if_true, reduceCtorEq, if_false]
          omega
    · exact unchanged (ended.trans (Coordinator.finishMissing held))

/-- Whoever sleeps while the worker rests sleeps for an attempt under way. -/
theorem attempt (awaited : Awaited limit last deadline index scene .parked)
    (rests : scene.step (source pubsub limit) = none) :
    ∃ worker, scene.worker = some worker ∧ worker.phase.isOver = false ∧
      ∃ due, scene.source.attempt.bind Holder.deadline? = some due ∧ scene.clock < due ∧
        due ≤ last := by
  obtain ⟨token, held⟩ := awaited.sleeps rfl
  obtain ⟨worker, present, _, going⟩ := awaited.closing.sole token held
  exact ⟨worker, present, going, (awaited.closing.rests present rests going).2⟩

/-- Time passes only for an attempt under way, and the one who waits goes on sleeping. -/
theorem elapse {time : Nat} (awaited : Awaited limit last deadline index scene .parked)
    (rests : scene.step (source pubsub limit) = none) (after : scene.clock < time)
    (exact : ∀ deadline, scene.source.attempt.bind Holder.deadline? = some deadline →
      time ≤ deadline) :
    Awaited limit last deadline index ((scene.jump time).act .wakeDue) .parked ∧
      rank last ((scene.jump time).act .wakeDue) .parked < rank last scene .parked := by
  obtain ⟨worker, present, going, _⟩ := awaited.attempt rests
  obtain ⟨inTime, closing⟩ := awaited.closing.jump present rests going exact
  have jumped : Awaited limit last deadline index (scene.jump time) .parked :=
    ⟨closing, awaited.longer, awaited.waiter, awaited.sleeps, by simp, by simp⟩
  have clock : ((scene.jump time).act .wakeDue).clock = time :=
    Nat.max_eq_right (Nat.le_of_lt after)
  have steps : stepsLeft ((scene.jump time).act .wakeDue) = stepsLeft scene := rfl
  refine ⟨jumped.wakeDue, ?_⟩
  simp only [rank, clock, steps]
  omega

/-- What others do in between takes nothing back. -/
theorem other (awaited : Awaited limit last deadline index scene phase)
    (moved : Outside Remote scene next) (still : next.clock = scene.clock)
    (unissued : next.coordinator.tokens.length = scene.coordinator.tokens.length) :
    ∃ after, Awaited limit last deadline index next after ∧
      rank last next after ≤ rank last scene phase := by
  have steps : stepsLeft next = stepsLeft scene := by
    simp only [stepsLeft, moved.workerSame]
  have lower {after : Shutdown.Phase} (calm : after = .scheduled → phase = .scheduled) :
      rank last next after ≤ rank last scene phase := by
    simp only [rank, still, steps]
    split <;> split <;> simp_all
  have kept (there : next.worker = scene.worker) (may : Remote scene.source next.source)
      (coordinator : next.coordinator = scene.coordinator) :
      ∃ after, Awaited limit last deadline index next after ∧
        rank last next after ≤ rank last scene phase :=
    ⟨phase, ⟨awaited.closing.aside there coordinator still may, there ▸ awaited.longer,
      coordinator ▸ awaited.waiter, coordinator ▸ awaited.sleeps, awaited.clean,
      coordinator ▸ awaited.success⟩, lower id⟩
  cases moved with
  | act _ foreign =>
      obtain ⟨after, acted, calm⟩ := awaited.act foreign unissued
      exact ⟨after, acted, lower calm⟩
  | serve may => exact kept rfl may rfl
  | take taken =>
      obtain ⟨channel, _, rfl⟩ := World.takeCases taken
      exact kept rfl (remoteRefl _) rfl
  | elapse | leave | log | count => exact kept rfl (remoteRefl _) rfl

/-- Every move keeps the bound, and marked moves use it up. -/
theorem move {progress : Bool} (awaited : Awaited limit last deadline index scene phase)
    (move : CloseMove pubsub limit index scene progress next) :
    ∃ after, Awaited limit last deadline index next after ∧
      rank last next after + progress.toNat ≤ rank last scene phase := by
  obtain ⟨span, own⟩ := awaited.waiter
  cases move with
  | work stepped => exact awaited.work stepped
  | look found scheduled =>
      rw [own] at found
      obtain rfl := Option.some.inj found
      obtain rfl : phase = .scheduled := scheduled
      obtain ⟨after, kept, looked, _⟩ := awaited.look
      have clock : (scene.act (.look index)).clock = scene.clock := rfl
      have steps : stepsLeft (scene.act (.look index)) = stepsLeft scene := rfl
      refine ⟨after, kept, ?_⟩
      simp only [rank, clock, steps, if_neg looked, if_true, Bool.toNat_true]
      omega
  | elapse found sleeps rests after exact =>
      rw [own] at found
      obtain rfl := Option.some.inj found
      obtain rfl : phase = .parked := sleeps
      exact ⟨.parked, awaited.elapse rests after fun attempt same => exact attempt (.inr same)⟩
  | other moved still unissued => exact awaited.other moved still unissued

theorem run {count : Nat} {final : Scene}
    (awaited : Awaited limit last deadline index scene phase)
    (run : CloseRun pubsub limit index scene count final) :
    ∃ after, Awaited limit last deadline index final after ∧
      rank last final after + count ≤ rank last scene phase := by
  induction run with
  | refl => exact ⟨phase, awaited, Nat.le_refl _⟩
  | tail run move inductionHypothesis =>
      obtain ⟨before, kept, used⟩ := inductionHypothesis
      obtain ⟨after, keptNext, usedNext⟩ := kept.move move
      exact ⟨after, keptNext, by omega⟩

/-- Until the one who waits has returned somebody can bring the end closer. -/
theorem goesOn (pubsub : Bool) (awaited : Awaited limit last deadline index scene phase) :
    phase = .returned true ∨ ∃ next, CloseMove pubsub limit index scene true next := by
  obtain ⟨span, own⟩ := awaited.waiter
  cases phase with
  | returned clean =>
      cases clean with
      | true => exact .inl rfl
      | false => exact absurd rfl awaited.clean
  | scheduled => exact .inr ⟨_, .look own rfl⟩
  | parked =>
      cases stepped : scene.step (source pubsub limit) with
      | some next => exact .inr ⟨next, .work stepped⟩
      | none =>
          obtain ⟨worker, present, _, due, found, before, bound⟩ := awaited.attempt stepped
          have longer := awaited.longer worker present
          refine .inr ⟨_, .elapse own rfl stepped (Nat.lt_succ_self _) ?_⟩
          rintro other (same | same)
          · obtain rfl := Option.some.inj same
            omega
          · rw [found] at same
            obtain rfl := Option.some.inj same
            exact before

end Awaited

end NodeBridge.Heads
