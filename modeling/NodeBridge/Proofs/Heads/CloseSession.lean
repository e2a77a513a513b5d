import NodeBridge.Proofs.Heads.CloseRun
import NodeBridge.Proofs.Heads.Waiting

/-
This file shows that a session that closes is one of the runs in which everybody acts in any order.
The session keeps no account of the one who waits, and apart from that it makes the same moves.
-/

namespace NodeBridge.Heads

open Observer
open Shutdown (Coordinator Waiter)

/-- The same scene is watched by these waiters. -/
def watchedBy (waiters : List Waiter) (scene : Scene) : Scene :=
  { scene with coordinator := { scene.coordinator with waiters } }

/-- The one who waits has this place and this phase in a run that is where the session is, which
knows nothing of its waiters. -/
structure Shadowed (limit : Duration) (last deadline index : Nat) (scene : Scene)
    (phase : Shutdown.Phase) (run : Scene) : Prop where
  awaited : Awaited limit last deadline index run phase
  same : ∃ waiters, run = watchedBy waiters scene

/-- From here on a run comes to where the session is then. -/
def Follows (pubsub : Bool) (limit : Duration) (last deadline index : Nat) (run next : Scene)
    (settled : Shutdown.Phase → Prop) : Prop :=
  ∃ count after phase, CloseRun pubsub limit index run count after ∧
    Shadowed limit last deadline index next phase after ∧ settled phase

variable {pubsub : Bool} {limit span : Duration} {last deadline index count : Nat}
  {scene next run : Scene} {phase : Shutdown.Phase} {settled later : Shutdown.Phase → Prop}

/-- After the signal the worker takes the same step whoever waits. -/
theorem stepWatched (closing : Closing limit last scene)
    (stepped : scene.step (source pubsub limit) = some next) (waiters : List Waiter) :
    ∃ others, (watchedBy waiters scene).step (source pubsub limit) =
      some (watchedBy others next) := by
  cases present : scene.worker with
  | none => simp [World.step, present] at stepped
  | some worker =>
      have bounded := closing.bounded worker present
      have unordered := bounded.unordered
      obtain ⟨added, step⟩ := World.stepCases present unordered stepped
      have there : (watchedBy waiters scene).worker = some worker := present
      have signal : (watchedBy waiters scene).coordinator.signalArrives = true := by
        rw [Coordinator.signalArrives, show (watchedBy waiters scene).coordinator.triggered = true
          from closing.triggered, Bool.true_or]
      have goOn {others : List Waiter} (step : WorkerStep (source pubsub limit) worker
          (watchedBy waiters scene) added (watchedBy others next)) := step.stepped there unordered
      cases step with
      | start phase => exact ⟨waiters, goOn (.start phase)⟩
      | subscribe phase completed => exact ⟨waiters, goOn (.subscribe phase completed)⟩
      | refuse phase completed => exact ⟨waiters, goOn (.refuse phase completed)⟩
      | ignore phase shut => exact ⟨waiters, goOn (.ignore phase shut)⟩
      | leave heeds =>
          have leaves : (watchedBy waiters scene).leave worker =
              watchedBy waiters (scene.leave worker) := by
            cases phase : worker.phase <;>
              simp [World.leave, World.cutOff, phase, watchedBy, World.record, World.setWorker]
          exact ⟨waiters, leaves ▸ World.stepOfSignal there unordered heeds signal⟩
      | close phase => exact ⟨waiters, goOn (.close phase)⟩
      | spare phase => exact ⟨waiters, goOn (.spare phase)⟩
      | finish phase =>
          have held : scene.coordinator.tokens[worker.token]? = some true := by
            have token := bounded.token
            rw [TokenHeld, phase] at token
            exact token
          have ends : (watchedBy waiters scene).finish worker =
              watchedBy (waiters.map Coordinator.wakeUp) (scene.finish worker) := by
            simp [World.finish, Coordinator.finish, held, watchedBy, World.record, World.setWorker]
          exact ⟨_, ends ▸ World.stepOfEnding there unordered phase⟩
      | retry _ quiet | deliver _ quiet | remark _ quiet | fail _ quiet | offer _ _ quiet
      | poll _ quiet =>
          rw [closing.signal] at quiet
          contradiction

/-- The session goes on from where the run has come to. -/
theorem Follows.trans {final : Scene}
    (follows : Follows pubsub limit last deadline index run next settled)
    (rest : ∀ after phase, Shadowed limit last deadline index next phase after → settled phase →
      Follows pubsub limit last deadline index after final later) :
    Follows pubsub limit last deadline index run final later := by
  obtain ⟨count, after, phase, moves, shadowed, holds⟩ := follows
  obtain ⟨more, final, settled, movesOn, shadowed, holds⟩ := rest after phase shadowed holds
  exact ⟨_, final, settled, moves.append movesOn, shadowed, holds⟩

namespace Shadowed

/-- One move of the run is enough. -/
theorem move {progress : Bool} {after : Scene} {phaseAfter : Shutdown.Phase}
    (move : CloseMove pubsub limit index run progress after)
    (awaited : Awaited limit last deadline index after phaseAfter)
    (same : ∃ waiters, after = watchedBy waiters next) (holds : settled phaseAfter) :
    Follows pubsub limit last deadline index run next settled :=
  ⟨_, after, phaseAfter, .tail .refl move, ⟨awaited, same⟩, holds⟩

theorem stay (shadowed : Shadowed limit last deadline index scene phase run)
    (holds : settled phase) : Follows pubsub limit last deadline index run scene settled :=
  ⟨0, run, phase, .refl, shadowed, holds⟩

theorem work (shadowed : Shadowed limit last deadline index scene phase run)
    (closing : Closing limit last scene)
    (stepped : scene.step (source pubsub limit) = some next) :
    Follows pubsub limit last deadline index run next fun _ => True := by
  obtain ⟨awaited, waiters, rfl⟩ := shadowed
  obtain ⟨others, watched⟩ := stepWatched closing stepped waiters
  obtain ⟨after, worked, _⟩ := awaited.work watched
  exact move (.work watched) worked ⟨others, rfl⟩ trivial

theorem attend (pubsub : Bool) (shadowed : Shadowed limit last deadline index scene phase run) :
    Follows pubsub limit last deadline index run (scene.attend (source pubsub limit))
      fun _ => True := by
  obtain ⟨awaited, waiters, rfl⟩ := shadowed
  have served : Outside Remote (watchedBy waiters scene)
      (watchedBy waiters (scene.attend (source pubsub limit))) := .serve ⟨_, rfl⟩
  obtain ⟨after, kept, _⟩ := awaited.other served rfl rfl
  exact move (.other served rfl rfl) kept ⟨waiters, rfl⟩ trivial

/-- The run makes all moves between two moments of rest. -/
theorem settleFor (shadowed : Shadowed limit last deadline index scene phase run)
    (closing : Closing limit last scene) :
    Follows pubsub limit last deadline index run (scene.settleFor (source pubsub limit) count)
      fun _ => True := by
  induction count generalizing scene phase run with
  | zero => exact shadowed.attend pubsub
  | succ count inductionHypothesis =>
      rw [World.settleFor]
      split
      case h_1 => exact shadowed.attend pubsub
      case h_2 next advanced =>
        rw [World.advanceOnce, Option.or_eq_some_iff] at advanced
        have attended := (closing.attend pubsub).1
        rcases advanced with stepped | ⟨_, stepped⟩
        · refine (shadowed.work closing stepped).trans fun _ _ shadowed _ => ?_
          exact inductionHypothesis shadowed (closing.work stepped).1
        · refine (shadowed.attend pubsub).trans fun _ _ shadowed _ => ?_
          refine (shadowed.work attended stepped).trans fun _ _ shadowed _ => ?_
          exact inductionHypothesis shadowed (attended.work stepped).1

theorem settle (shadowed : Shadowed limit last deadline index scene phase run)
    (closing : Closing limit last scene) :
    Follows pubsub limit last deadline index run (scene.settle (source pubsub limit))
      fun _ => True := shadowed.settleFor closing

/-- Whoever looks while a token is held goes to sleep, and without a token he returns. -/
theorem look (pubsub : Bool) (shadowed : Shadowed limit last deadline index scene phase run) :
    Follows pubsub limit last deadline index run scene fun phase =>
      (scene.coordinator.outstanding ≠ 0 → phase = .parked) ∧
        (scene.coordinator.outstanding = 0 → phase = .returned true) := by
  obtain ⟨awaited, waiters, rfl⟩ := shadowed
  have decided {after : Scene} {phase : Shutdown.Phase}
      (awaited : Awaited limit last deadline index after phase) (looked : phase ≠ .scheduled)
      (outstanding : after.coordinator.outstanding = scene.coordinator.outstanding) :
      (scene.coordinator.outstanding ≠ 0 → phase = .parked) ∧
        (scene.coordinator.outstanding = 0 → phase = .returned true) := by
    rw [← outstanding]
    cases phase with
    | scheduled => contradiction
    | parked =>
        obtain ⟨token, held⟩ := awaited.sleeps rfl
        exact ⟨fun _ => rfl,
          fun nobody => absurd held ((awaited.closing.allOver nobody).unheld token)⟩
    | returned clean =>
        cases clean with
        | true => exact ⟨fun somebody => absurd (awaited.success rfl) somebody, fun _ => rfl⟩
        | false => exact absurd rfl awaited.clean
  by_cases scheduled : phase = .scheduled
  · subst scheduled
    obtain ⟨after, looked, awake, silent⟩ := awaited.look
    obtain ⟨span, found⟩ := awaited.waiter
    have outstanding :
        ((watchedBy waiters scene).act (.look index)).coordinator.outstanding =
          scene.coordinator.outstanding := Coordinator.outstandingPoll _ _ _
    have same : ∃ others,
        (watchedBy waiters scene).act (.look index) = watchedBy others scene := by
      refine ⟨((watchedBy waiters scene).coordinator.poll scene.clock index).1.waiters, ?_⟩
      simp only [World.act, Coordinator.perform, silent, World.report, List.append_nil]
      rw [Coordinator.pollWaiters]
      rfl
    exact move (.look found rfl) looked same (decided looked awake outstanding)
  · exact stay ⟨awaited, waiters, rfl⟩ (decided awaited scheduled rfl)

/-- Time passes for both. -/
theorem jump {time : Nat} (shadowed : Shadowed limit last deadline index scene .parked run)
    (rests : scene.step (source pubsub limit) = none) (later : scene.clock < time)
    (exact : ∀ attempt, scene.source.attempt.bind Holder.deadline? = some attempt →
      time ≤ attempt) (inTime : time ≤ deadline) :
    Follows pubsub limit last deadline index run (scene.jump time) fun _ => True := by
  obtain ⟨awaited, waiters, rfl⟩ := shadowed
  obtain ⟨span, found⟩ := awaited.waiter
  have restsToo : (watchedBy waiters scene).step (source pubsub limit) = none := by
    cases stepped : (watchedBy waiters scene).step (source pubsub limit) with
    | none => rfl
    | some next =>
        obtain ⟨others, same⟩ := stepWatched awaited.closing stepped scene.coordinator.waiters
        have unwatched :
            watchedBy scene.coordinator.waiters (watchedBy waiters scene) = scene := rfl
        rw [unwatched, rests] at same
        contradiction
  have passes := awaited.elapse restsToo later exact
  have same : ∃ others, ((watchedBy waiters scene).jump time).act .wakeDue =
      watchedBy others (scene.jump time) := by
    refine ⟨waiters.map (Coordinator.wakeAt ((watchedBy waiters scene).jump time).clock), ?_⟩
    simp only [World.act, Coordinator.perform, World.report, List.append_nil]
    rfl
  refine move (.elapse found rfl restsToo later ?_) passes.1 same trivial
  rintro other (own | attempt)
  · obtain rfl := Option.some.inj own
    exact inTime
  · exact exact other attempt

/-- A session waits like somebody in a run, and it is over when he has returned. -/
theorem waitFor (shadowed : Shadowed limit last deadline index scene phase run)
    (closing : Closing limit last scene)
    (longer : ∀ worker, scene.worker = some worker → last < deadline)
    (fuel : last - scene.clock < count) :
    Follows pubsub limit last deadline index run
      (scene.waitFor (source pubsub limit) count deadline span).2 (· = .returned true) := by
  induction count generalizing scene run phase with
  | zero => omega
  | succ count inductionHypothesis =>
      have inTime := closing.inTime
      refine (shadowed.look pubsub).trans fun run phase shadowed looked => ?_
      rw [World.waitFor]
      by_cases nobody : scene.coordinator.outstanding = 0
      · rw [if_pos nobody]
        exact shadowed.stay (looked.2 nobody)
      obtain ⟨worker, present, _⟩ := closing.going nobody
      have ahead : last < deadline := longer worker present
      obtain ⟨settled, resting⟩ := closing.settle pubsub
      have early : ¬ deadline ≤ scene.clock := by omega
      rw [if_neg nobody, if_neg early]
      refine (shadowed.settle closing).trans fun run phase shadowed _ => ?_
      refine (shadowed.look pubsub).trans fun run phase shadowed looked => ?_
      dsimp only
      split
      case isTrue nobody => exact shadowed.stay (looked.2 nobody)
      case isFalse outstanding =>
        obtain rfl := looked.1 outstanding
        have clock := resting.clock
        obtain ⟨due, timer, after, bound, exact, jumped⟩ :=
          settled.timer (clock.symm ▸ resting) outstanding
        have first : min due deadline = due := Nat.min_eq_left (by omega)
        have moved : ((scene.settle (source pubsub limit)).jump due).clock = due :=
          Nat.max_eq_right (Nat.le_of_lt after)
        rw [timer, Option.getD_some, first]
        refine (shadowed.jump resting.waits after exact (by omega)).trans
          fun run phase shadowed _ => ?_
        exact inductionHypothesis shadowed jumped (fun _ _ => ahead) (by omega)

end Shadowed

/-- Whoever comes to wait gets this place. -/
def place (scene : Scene) : Nat := scene.coordinator.waiters.length

/-- The one who waits in this place has returned with success. -/
def Returned (index : Nat) (scene : Scene) : Prop :=
  scene.coordinator.waiters[index]?.map Waiter.phase = some (.returned true)

end NodeBridge.Heads
