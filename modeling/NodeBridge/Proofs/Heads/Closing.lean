import NodeBridge.Proofs.Heads.Opening

/-
This file follows the end of an observer of new headers against the clock.
After the signal the worker is over as soon as its last attempt is complete, and whoever waits
for it with a longer limit than that of an attempt never waits in vain.
-/

namespace NodeBridge.Heads

open Observer
open Shutdown (Coordinator)

/-- After the signal a worker takes at most this many steps. -/
def stepsOf (worker : Worker Header) : Nat :=
  match worker.phase with
  | .created => 5
  | .opening => 4
  | .handing _ _ => if worker.feedClosed then 4 else 3
  | .leaving _ => 2
  | .ending => 1
  | .finished => 0
  | .stopped => 0
  | _ => 3

/-- Without a worker there is nothing to do. -/
def stepsLeft (scene : Scene) : Nat :=
  match scene.worker with
  | none => 0
  | some worker => stepsOf worker

theorem stepsLeftLe (scene : Scene) : stepsLeft scene ≤ 5 := by
  unfold stepsLeft
  split
  · omega
  · unfold stepsOf
    split
    case h_3 => split <;> omega
    all_goals omega

/-- The worker has its token until its end, and its last attempt ends by this time, even if it has
not begun. -/
structure Bounded (limit : Duration) (last : Nat) (worker : Worker Header) (scene : Scene) :
    Prop where
  unordered : worker.cancelled = false
  unstopped : worker.phase ≠ .stopped
  token : TokenHeld worker scene
  unstarted : worker.phase = .created → scene.clock + limit.milliseconds ≤ last
  asked : worker.phase = .opening → Asked last scene.source

/-- The signal was given, no one but a worker that is not over holds a token, and there is no
reason to be here after this time. -/
structure Closing (limit : Duration) (last : Nat) (scene : Scene) : Prop where
  triggered : scene.coordinator.triggered = true
  balanced : scene.coordinator.Balanced
  inTime : scene.clock ≤ last
  sole : ∀ token : Nat, scene.coordinator.tokens[token]? = some true →
    ∃ worker, scene.worker = some worker ∧ token = worker.token ∧ worker.phase.isOver = false
  bounded : ∀ worker, scene.worker = some worker → Bounded limit last worker scene

/-- The signal is set, no token is left, and the worker has come to its end. -/
structure AllOver (scene : Scene) : Prop where
  signal : scene.coordinator.triggered = true
  nobody : scene.coordinator.outstanding = 0
  unheld : ∀ token : Nat, scene.coordinator.tokens[token]? ≠ some true
  worker : ∀ worker, scene.worker = some worker → worker.phase = .finished

variable {pubsub : Bool} {limit : Duration} {last : Nat} {worker later : Worker Header}
  {scene next : Scene} {added : List (Happening Header)}

namespace Closing

theorem signal (closing : Closing limit last scene) :
    scene.coordinator.signalArrives = true := by
  rw [Coordinator.signalArrives, closing.triggered, Bool.true_or]

/-- A step that leaves the tokens alone and takes no time keeps the bound. -/
theorem goOn (closing : Closing limit last scene) (present : scene.worker = some worker)
    (there : next.worker = some later) (coordinator : next.coordinator = scene.coordinator)
    (clock : next.clock = scene.clock) (token : later.token = worker.token)
    (cancelled : later.cancelled = worker.cancelled) (before : worker.phase.isOver = false)
    (going : later.phase.isOver = false) (started : later.phase ≠ .created)
     (asked : later.phase = .opening → Asked last next.source) :
    Closing limit last next where
  triggered := coordinator ▸ closing.triggered
  balanced := coordinator ▸ closing.balanced
  inTime := clock ▸ closing.inTime
  sole other held := by
    rw [coordinator] at held
    obtain ⟨_, same, own, _⟩ := closing.sole other held
    obtain rfl := Option.some.inj (present.symm.trans same)
    exact ⟨later, there, own.trans token.symm, going⟩
  bounded other same := by
    obtain rfl := Option.some.inj (there.symm.trans same)
    have bounded := closing.bounded worker present
    refine ⟨cancelled.trans bounded.unordered, ?_, ?_, fun created => absurd created started, asked⟩
    · rintro stopped
      rw [stopped] at going
      contradiction
    · rw [TokenHeld, coordinator, token, going, ← before]
      exact bounded.token

/-- With the end of the worker the last token ends. -/
theorem finish (closing : Closing limit last scene) (present : scene.worker = some worker) :
    Closing limit last (scene.finish worker) where
  triggered := Coordinator.triggeredKept scene.clock (.finish worker.token) closing.triggered
  balanced := Coordinator.balancedFinish closing.balanced worker.token
  inTime := closing.inTime
  sole other held := by
    obtain ⟨held, different⟩ := Coordinator.heldAfterFinish held
    obtain ⟨_, same, own, _⟩ := closing.sole other held
    obtain rfl := Option.some.inj (present.symm.trans same)
    exact absurd own different
  bounded other same := by
    obtain rfl := Option.some.inj same
    have bounded := closing.bounded worker present
    refine ⟨bounded.unordered, by simp, ?_, by simp, by simp⟩
    by_cases held : scene.coordinator.tokens[worker.token]? = some true
    · exact Coordinator.tokenEnded held
    · have known : scene.coordinator.tokens[worker.token]? = some (!worker.phase.isOver) :=
        bounded.token
      have same : (scene.finish worker).coordinator = scene.coordinator :=
        Coordinator.finishMissing held
      rw [TokenHeld, same]
      cases isOver : worker.phase.isOver <;> simp_all [Phase.isOver]

/-- As long as something is outstanding the worker is there and has its token. -/
theorem going (closing : Closing limit last scene)
    (outstanding : scene.coordinator.outstanding ≠ 0) :
    ∃ worker, scene.worker = some worker ∧ worker.phase.isOver = false ∧
      scene.coordinator.tokens[worker.token]? = some true := by
  obtain ⟨token, held⟩ := closing.balanced.holds outstanding
  obtain ⟨worker, present, own, going⟩ := closing.sole token held
  exact ⟨worker, present, going, own ▸ held⟩

/-- When nothing is outstanding the worker has come to its end. -/
theorem allOver (closing : Closing limit last scene)
    (nobody : scene.coordinator.outstanding = 0) : AllOver scene := by
  have unheld (token : Nat) : scene.coordinator.tokens[token]? ≠ some true := by
    intro held
    have counted : 0 < scene.coordinator.tokens.count true :=
      List.count_pos_iff.mpr (List.mem_of_getElem? held)
    rw [← closing.balanced.outstanding, nobody] at counted
    contradiction
  refine ⟨closing.triggered, nobody, unheld, fun worker present => ?_⟩
  have bounded := closing.bounded worker present
  have token : scene.coordinator.tokens[worker.token]? = some (!worker.phase.isOver) :=
    bounded.token
  cases phase : worker.phase with
  | finished => rfl
  | stopped => exact absurd phase bounded.unstopped
  | _ =>
      rw [phase] at token
      exact absurd token (unheld worker.token)

/-- A step of the worker takes no time, and it is one of the last. -/
theorem work (closing : Closing limit last scene)
    (stepped : scene.step (source pubsub limit) = some next) :
    Closing limit last next ∧ stepsLeft next < stepsLeft scene ∧ next.clock = scene.clock ∧
      (next.coordinator = scene.coordinator ∨
        ∃ token, next.coordinator = scene.coordinator.finish token) := by
  cases present : scene.worker with
  | none => simp [World.step, present] at stepped
  | some worker =>
      have bounded := closing.bounded worker present
      obtain ⟨added, step⟩ := World.stepCases present bounded.unordered stepped
      have signal := closing.signal
      have going := step.going
      cases step with
      | start phase =>
          have asked : Asked last ((scene.record worker.topic .started).beginOpen
              (source pubsub limit) worker).source :=
            (askedBeginOpen _ _ _ _ _).later (bounded.unstarted phase)
          refine ⟨closing.goOn present rfl rfl rfl rfl rfl going rfl (by simp) fun _ => asked,
            ?_, rfl, .inl rfl⟩
          simp [stepsLeft, stepsOf, present, phase, World.beginOpen, World.setWorker]
      | subscribe phase =>
          refine ⟨closing.goOn present rfl rfl rfl rfl rfl going rfl (by simp) (by simp), ?_, rfl,
            .inl rfl⟩
          simp [stepsLeft, stepsOf, present, phase, World.subscribed, World.setWorker]
      | refuse phase =>
          refine ⟨closing.goOn present rfl rfl rfl rfl rfl going rfl (by simp) (by simp), ?_, rfl,
            .inl rfl⟩
          simp [stepsLeft, stepsOf, present, phase, World.refused, World.beginPause,
            World.setWorker]
      | ignore phase shut =>
          refine ⟨closing.goOn present rfl rfl rfl rfl rfl going rfl (by simp) (by simp), ?_, rfl,
            .inl rfl⟩
          simp [stepsLeft, stepsOf, present, phase, shut, World.setWorker]
      | leave heeds =>
          obtain ⟨clock, coordinator, _⟩ := World.leaveKeeps worker scene
          refine ⟨closing.goOn present rfl coordinator clock rfl rfl going rfl (by simp) (by simp),
            ?_, clock, .inl coordinator⟩
          cases phase : worker.phase <;>
            simp_all [stepsLeft, stepsOf, Worker.heeds, World.leave, World.setWorker]
      | close phase | spare phase =>
          refine ⟨closing.goOn present rfl rfl rfl rfl rfl going rfl (by simp) (by simp), ?_, rfl,
            .inl rfl⟩
          simp [stepsLeft, stepsOf, present, phase, World.closeHeld, World.setWorker]
      | finish phase =>
          refine ⟨closing.finish present, ?_, rfl, .inr ⟨_, rfl⟩⟩
          simp [stepsLeft, stepsOf, present, phase, World.finish, World.setWorker]
      -- All other steps are taken only before the signal.
      | retry _ quiet | deliver _ quiet | remark _ quiet | fail _ quiet | offer _ _ quiet
      | poll _ quiet =>
          rw [signal] at quiet
          contradiction

/-- A worker that can only wait has an attempt under way, and its deadline is still to come. -/
theorem rests (closing : Closing limit last scene) (present : scene.worker = some worker)
    (waits : scene.step (source pubsub limit) = none) (going : worker.phase.isOver = false) :
    worker.phase = .opening ∧ ∃ deadline,
      scene.source.attempt.bind Holder.deadline? = some deadline ∧ scene.clock < deadline ∧
        deadline ≤ last := by
  have bounded := closing.bounded worker present
  by_cases heeds : worker.heeds = true
  · rw [World.stepOfSignal present bounded.unordered heeds closing.signal] at waits
    contradiction
  · simp only [World.step, present, bounded.unordered, Bool.false_and, Bool.false_eq_true,
      if_false] at waits
    cases phase : worker.phase with
    | created => simp [World.proceed, phase] at waits
    | opening =>
        have incomplete : scene.source.completion? scene.clock = none := by
          cases completed : scene.source.completion? scene.clock with
          | none => rfl
          | some result =>
              obtain ⟨answer, state⟩ := result
              cases answer <;> simp [World.proceed, phase, source, completed] at waits
        exact ⟨rfl, (bounded.asked phase).awaits incomplete⟩
    | handing number item =>
        have shut : worker.feedClosed = true := by simpa [Worker.heeds, phase] using heeds
        simp [World.proceed, phase, shut] at waits
    | pausing due => simp [Worker.heeds, phase] at heeds
    | watching number => simp [Worker.heeds, phase] at heeds
    | blocked number item ticket => simp [Worker.heeds, phase] at heeds
    | leaving held => simp [World.proceed, phase] at waits
    | ending => simp [World.proceed, phase] at waits
    | finished => simp [phase, Phase.isOver] at going
    | stopped => simp [phase, Phase.isOver] at going

/-- The client and the feed may move while the worker stands still. -/
theorem aside (closing : Closing limit last scene) (there : next.worker = scene.worker)
    (coordinator : next.coordinator = scene.coordinator) (clock : next.clock = scene.clock)
    (may : Remote scene.source next.source) : Closing limit last next where
  triggered := coordinator ▸ closing.triggered
  balanced := coordinator ▸ closing.balanced
  inTime := clock ▸ closing.inTime
  sole := by
    rw [coordinator, there]
    exact closing.sole
  bounded worker present := by
    have bounded := closing.bounded worker (there ▸ present)
    have held : TokenHeld worker next := by
      rw [TokenHeld, coordinator]
      exact bounded.token
    exact ⟨bounded.unordered, bounded.unstopped, held, clock ▸ bounded.unstarted,
      fun opening => (bounded.asked opening).remote may⟩

/-- The clock moves on while an attempt is awaited, and not beyond its deadline. -/
theorem jump {time : Nat} (closing : Closing limit last scene)
    (present : scene.worker = some worker) (waits : scene.step (source pubsub limit) = none)
    (going : worker.phase.isOver = false)
    (exact : ∀ deadline, scene.source.attempt.bind Holder.deadline? = some deadline →
      time ≤ deadline) :
    time ≤ last ∧ Closing limit last (scene.jump time) := by
  obtain ⟨opening, deadline, found, _, bound⟩ := closing.rests present waits going
  have inTime : time ≤ last := Nat.le_trans (exact deadline found) bound
  refine ⟨inTime, closing.triggered, closing.balanced, Nat.max_le.mpr ⟨closing.inTime, inTime⟩,
    closing.sole, ?_⟩
  intro other same
  obtain rfl := Option.some.inj (present.symm.trans same)
  have bounded := closing.bounded worker present
  refine ⟨bounded.unordered, bounded.unstopped, bounded.token, ?_, bounded.asked⟩
  intro created
  rw [created] at opening
  contradiction

end Closing

end NodeBridge.Heads
