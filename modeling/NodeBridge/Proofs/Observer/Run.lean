import NodeBridge.Observer.Session
import NodeBridge.Proofs.Observer.Step
import NodeBridge.Proofs.Shutdown.Action
import Mathlib.Logic.Relation

/-
This file defines the runs of a worker among everything that goes on around it.
The other side, the clock, the consumer and other tasks move in any order and at any time,
and what all of their moves and all steps of the worker keep holds in every reachable world.
-/

namespace NodeBridge.Observer

open Shutdown (Action Coordinator)

variable {State Item : Type}

namespace World

/-- Somebody acts on the coordinator, and the report goes into the log. -/
def act (action : Action) (world : World State Item) : World State Item :=
  let (coordinator, events) := world.coordinator.perform world.clock action
  { world with coordinator }.report events

end World

/-- The relation `remote` says how the other side may change the source by itself.
The token of the worker is in its own hands. -/
inductive Outside (remote : State → State → Prop) (world : World State Item) :
    World State Item → Prop where
  | serve {state : State} (may : remote world.source state) :
      Outside remote world { world with source := state }
  | elapse (time : Nat) : Outside remote world (world.jump time)
  | take {item : Item} {next : World State Item} (taken : world.take? = some (item, next)) :
      Outside remote world next
  | leave : Outside remote world world.dropFeed
  | act {action : Action} (allowed : world.coordinator.Allows action)
      (foreign : ∀ worker, world.worker = some worker → action ≠ .finish worker.token) :
      Outside remote world (world.act action)
  | log (events : List Event) : Outside remote world { world with events }
  | count (call : String) :
      Outside remote world
        { world with metrics := world.metrics.increment (.callFailures call) }

/-- Either the worker takes a step or somebody else does something. -/
inductive Move (source : Source State Item) (remote : State → State → Prop)
    (world : World State Item) : World State Item → Prop where
  | work {next : World State Item} (stepped : world.step source = some next) :
      Move source remote world next
  | outside {next : World State Item} (moved : Outside remote world next) :
      Move source remote world next

/-- A run goes from one world to another by any number of moves. -/
abbrev Run (source : Source State Item) (remote : State → State → Prop) :
    World State Item → World State Item → Prop :=
  Relation.ReflTransGen (Move source remote)

/-- A worker is spawned into a world without a past, with a coordinator in any use. -/
inductive Reachable (source : Source State Item) (remote : State → State → Prop)
    (capacity : Nat) : World State Item → Prop where
  | start {idle : World State Item} (fresh : idle.history = [])
      (coordinator : idle.coordinator.Reachable) (topic : String) (policy : RetryPolicy) :
      Reachable source remote capacity (idle.spawn topic policy capacity)
  | next {world later : World State Item} (reached : Reachable source remote capacity world)
      (move : Move source remote world later) : Reachable source remote capacity later

variable {source : Source State Item} {remote : State → State → Prop} {capacity : Nat}
  {world next final : World State Item} {worker later : Worker Item} {added : List (Happening Item)}

theorem Reachable.run (reached : Reachable source remote capacity world)
    (run : Run source remote world final) : Reachable source remote capacity final := by
  induction run with
  | refl => exact reached
  | tail _ move inductionHypothesis => exact .next inductionHypothesis move

/-- Giving the signal is one of the moves. -/
theorem Reachable.trigger (reached : Reachable source remote capacity world)
    (present : world.coordinator.isGone = false) :
    Reachable source remote capacity world.trigger := by
  have allowed : world.coordinator.Allows .trigger := present
  exact .next reached (.outside (.act allowed fun _ _ => nofun))

section Settling

/-- What every step and every turn of the source keeps is kept until the next moment of rest. -/
theorem World.settleForKeeps {holds : World State Item → Prop}
    (attend : ∀ world, holds world → holds (world.attend source))
    (step : ∀ world next, holds world → world.step source = some next → holds next)
    (count : Nat) (start : holds world) : holds (world.settleFor source count) := by
  induction count generalizing world with
  | zero => exact attend world start
  | succ count inductionHypothesis =>
      rw [settleFor]
      split
      · exact attend world start
      case h_2 next advanced =>
        rw [advanceOnce, Option.or_eq_some_iff] at advanced
        rcases advanced with stepped | ⟨_, stepped⟩
        · exact inductionHypothesis (step world next start stepped)
        · exact inductionHypothesis (step _ next (attend world start) stepped)

variable (attends : ∀ clock state, remote state (source.attend clock state))

include attends

/-- What a session does between two moments of rest is a run. -/
theorem Run.settle (world : World State Item) : Run source remote world (world.settle source) :=
  World.settleForKeeps (fun _ run => .tail run (.outside (.serve (attends _ _))))
    (fun _ _ run stepped => .tail run (.work stepped)) _ .refl

end Settling

namespace Outside

/-- Nobody else changes the worker. -/
theorem workerSame (moved : Outside remote world next) : next.worker = world.worker := by
  cases moved with
  | take taken =>
      obtain ⟨channel, _, rfl⟩ := World.takeCases taken
      rfl
  | _ => rfl

/-- All that others add to the chronicle is what the consumer took. -/
theorem chronicleAdds (moved : Outside remote world next) :
    ∃ items : List Item, next.chronicle = world.chronicle ++ items.map .taken := by
  cases moved with
  | @take item _ taken =>
      refine ⟨[item], ?_⟩
      obtain ⟨channel, _, rfl⟩ := World.takeCases taken
      simp [World.chronicle]
  | _ => exact ⟨[], (List.append_nil _).symm⟩

/-- The attempts are those of the worker alone. -/
theorem attemptsSame (moved : Outside remote world next) : next.attempts = world.attempts := by
  cases moved with
  | take taken =>
      obtain ⟨channel, _, rfl⟩ := World.takeCases taken
      simp [World.attempts]
  | _ => rfl

theorem coordinatorActs (moved : Outside remote world next) :
    next.coordinator = world.coordinator ∨
      ∃ action, world.coordinator.Allows action ∧
        (∀ worker, world.worker = some worker → action ≠ .finish worker.token) ∧
        next.coordinator = (world.coordinator.perform world.clock action).1 := by
  cases moved with
  | take taken =>
      obtain ⟨channel, _, rfl⟩ := World.takeCases taken
      exact .inl rfl
  | @act action allowed foreign => exact .inr ⟨action, allowed, foreign, rfl⟩
  | _ => exact .inl rfl

/-- A signal that arrives goes on arriving whatever others do. -/
theorem signalStays (moved : Outside remote world next)
    (arrives : world.coordinator.signalArrives = true) :
    next.coordinator.signalArrives = true := by
  rcases moved.coordinatorActs with same | ⟨action, allowed, _, acted⟩
  · exact same ▸ arrives
  · exact acted ▸ Coordinator.signalKept world.clock allowed arrives

end Outside

/-- A step whose guards hold is the one that the worker takes. -/
theorem WorkerStep.stepped (present : world.worker = some worker)
    (unordered : worker.cancelled = false) (step : WorkerStep source worker world added next) :
    world.step source = some next := by
  cases step with
  | leave heeds signal => exact World.stepOfSignal present unordered heeds signal
  | close phase | spare phase => exact World.stepOfLeaving present unordered phase
  | finish phase => exact World.stepOfEnding present unordered phase
  | start phase => simp [World.step, World.proceed, present, unordered, phase]
  | subscribe phase completed | refuse phase completed =>
      simp [World.step, World.proceed, present, unordered, phase, completed]
  | retry phase quiet expired =>
      simp [World.step, World.proceed, present, unordered, phase, quiet, expired]
  | deliver phase quiet ready | remark phase quiet ready | fail phase quiet ready =>
      simp [World.step, World.proceed, present, unordered, phase, quiet, ready]
  | ignore phase shut => simp [World.step, World.proceed, present, unordered, phase, shut]
  | offer phase unshut quiet =>
      simp [World.step, World.proceed, present, unordered, phase, unshut, quiet]
  | @poll number ticket item phase quiet moved =>
      rcases polled : world.channel.poll ticket with ⟨progress, channel⟩
      rw [polled] at moved
      cases progress with
      | waits later => exact absurd rfl (moved later)
      | accepted | closed =>
          simp [World.step, World.proceed, present, unordered, phase, quiet, polled]

/-- Only the last step of a worker touches the coordinator, and it ends the token. -/
theorem WorkerStep.coordinatorEnds (step : WorkerStep source worker world added next) :
    next.coordinator = world.coordinator ∨
      (worker.phase = .ending ∧ next = world.finish worker ∧
        next.coordinator = world.coordinator.finish worker.token) := by
  cases step with
  | offer | poll => exact .inl (World.coordinatorHandOver _ _ _)
  | leave => exact .inl (World.leaveKeeps worker world).2.1
  | finish phase => exact .inr ⟨phase, rfl, rfl⟩
  | _ => exact .inl rfl

theorem WorkerStep.signalStays (step : WorkerStep source worker world added next)
    (arrives : world.coordinator.signalArrives = true) :
    next.coordinator.signalArrives = true := by
  rcases step.coordinatorEnds with same | ⟨_, _, ended⟩
  · exact same ▸ arrives
  · have allowed : world.coordinator.Allows (.finish worker.token) := trivial
    exact ended ▸ Coordinator.signalKept world.clock allowed arrives

/-- Whoever is over takes no step. -/
theorem WorkerStep.going (step : WorkerStep source worker world added next) :
    worker.phase.isOver = false := by
  cases step with
  | leave heeds => cases phase : worker.phase <;> simp_all [Worker.heeds, Phase.isOver]
  | start phase | subscribe phase | refuse phase | retry phase | deliver phase | remark phase
  | fail phase | ignore phase | offer phase | poll phase | close phase | spare phase
  | finish phase => simp [phase, Phase.isOver]

/-- Only the signal brings a worker out of its loop. -/
theorem WorkerStep.leaves (present : world.worker = some worker)
    (step : WorkerStep source worker world added next) (there : next.worker = some later)
    (left : later.phase.hasLeft = true) : worker.phase.hasLeft = true ∨
      (worker.heeds = true ∧ world.coordinator.signalArrives = true ∧
        next = world.leave worker) := by
  cases step with
  | leave heeds signal => exact .inr ⟨heeds, signal, rfl⟩
  | close phase | spare phase | finish phase => exact .inl (by rw [phase]; rfl)
  | offer | poll =>
      obtain ⟨_, same, _, _, _, _, staying, _⟩ := World.workerHandOver _ _ _
      obtain rfl := Option.some.inj (there.symm.trans same)
      rw [staying] at left
      contradiction
  | remark phase =>
      obtain rfl := Option.some.inj (present.symm.trans there)
      exact .inl left
  | _ =>
      obtain rfl := Option.some.inj there
      cases left

/-- On its way out a worker at most closes what it holds, and it does not come back. -/
theorem WorkerStep.wayOut (step : WorkerStep source worker world added next)
    (left : worker.phase.hasLeft = true) :
    (∃ later, next.worker = some later ∧ later.phase.hasLeft = true) ∧
      (added = [] ∨ (∃ number, added = [.closed number]) ∨ added = [.ended]) := by
  cases step with
  | close => exact ⟨⟨_, rfl, rfl⟩, .inr (.inl ⟨_, rfl⟩)⟩
  | spare => exact ⟨⟨_, rfl, rfl⟩, .inl rfl⟩
  | finish => exact ⟨⟨_, rfl, rfl⟩, .inr (.inr rfl)⟩
  | leave heeds =>
      rw [Worker.stayedOfHeeds heeds] at left
      contradiction
  | start phase | subscribe phase | refuse phase | retry phase | deliver phase | remark phase
  | fail phase | ignore phase | offer phase | poll phase =>
      rw [phase] at left
      cases left

/-- Whoever has nothing left to close only ends its token. -/
theorem WorkerStep.closedBefore (step : WorkerStep source worker world added next)
    (closed : worker.phase.hasClosed = true) :
    worker.phase = .ending ∧ added = [.ended] ∧ next = world.finish worker := by
  cases step with
  | finish phase => exact ⟨phase, rfl, rfl⟩
  | leave heeds =>
      rw [Phase.unclosedOfStayed (Worker.stayedOfHeeds heeds)] at closed
      contradiction
  | start phase | subscribe phase | refuse phase | retry phase | deliver phase | remark phase
  | fail phase | ignore phase | offer phase | poll phase | close phase | spare phase =>
      rw [phase] at closed
      cases closed

/-- The step after which nothing is left to close is the one that closes what was held. -/
theorem WorkerStep.closesHeld (present : world.worker = some worker)
    (step : WorkerStep source worker world added next) (there : next.worker = some later)
    (closed : later.phase.hasClosed = true) (holds : worker.phase.held? ≠ none) :
    ∃ number, next = world.closeHeld source (some number) worker := by
  cases step with
  | close phase => exact ⟨_, rfl⟩
  | spare phase | finish phase =>
      rw [phase] at holds
      contradiction
  | leave =>
      obtain rfl := Option.some.inj there
      cases closed
  | offer | poll =>
      obtain ⟨_, same, _, _, _, _, staying, _⟩ := World.workerHandOver _ _ _
      obtain rfl := Option.some.inj (there.symm.trans same)
      rw [Phase.unclosedOfStayed staying] at closed
      contradiction
  | remark phase =>
      obtain rfl := Option.some.inj (present.symm.trans there)
      rw [phase] at closed
      cases closed
  | _ =>
      obtain rfl := Option.some.inj there
      cases closed

/-- A worker is over only after everything else was done on its way out. -/
theorem WorkerStep.finishes (present : world.worker = some worker)
    (step : WorkerStep source worker world added next) (there : next.worker = some later)
    (isOver : later.phase.isOver = true) :
    worker.phase = .ending ∧ next = world.finish worker := by
  cases step with
  | finish phase => exact ⟨phase, rfl⟩
  | offer | poll =>
      obtain ⟨_, same, _, _, _, _, staying, _⟩ := World.workerHandOver _ _ _
      obtain rfl := Option.some.inj (there.symm.trans same)
      rw [Phase.leftOfOver isOver] at staying
      contradiction
  | remark phase =>
      obtain rfl := Option.some.inj (present.symm.trans there)
      rw [phase] at isOver
      cases isOver
  | _ =>
      obtain rfl := Option.some.inj there
      cases isOver

/-- An attempt is under way after a step only if it begins with it. -/
theorem WorkerStep.asks (present : world.worker = some worker)
    (step : WorkerStep source worker world added next) (there : next.worker = some later)
    (opening : later.phase = .opening) :
    next.source = source.beginOpen world.clock worker.topic world.source ∧
      next.clock = world.clock := by
  cases step with
  | start | retry => exact ⟨rfl, rfl⟩
  | offer | poll =>
      obtain ⟨_, same, _, _, _, _, _, unasked⟩ := World.workerHandOver _ _ _
      obtain rfl := Option.some.inj (there.symm.trans same)
      exact absurd opening unasked
  | remark phase =>
      obtain rfl := Option.some.inj (present.symm.trans there)
      rw [phase] at opening
      contradiction
  | _ =>
      obtain rfl := Option.some.inj there
      contradiction

/-- The worker is still there after its step, with its topic, its policy and its token. -/
theorem WorkerStep.staffed (present : world.worker = some worker)
    (step : WorkerStep source worker world added next) :
    ∃ later, next.worker = some later ∧ later.topic = worker.topic ∧
      later.policy = worker.policy ∧ later.token = worker.token ∧
      later.cancelled = worker.cancelled := by
  cases step with
  | offer | poll =>
      obtain ⟨later, there, topic, policy, token, cancelled, _⟩ := World.workerHandOver _ _ _
      exact ⟨later, there, topic, policy, token, cancelled⟩
  | remark => exact ⟨worker, present, rfl, rfl, rfl, rfl⟩
  | _ => exact ⟨_, rfl, rfl, rfl, rfl, rfl⟩

/-- Nobody in a run cancels the worker. -/
theorem Reachable.staffed (reached : Reachable source remote capacity world) :
    ∃ worker, world.worker = some worker ∧ worker.cancelled = false := by
  induction reached with
  | start fresh coordinator topic policy => exact ⟨_, rfl, rfl⟩
  | next reached move inductionHypothesis =>
      obtain ⟨worker, present, unordered⟩ := inductionHypothesis
      cases move with
      | work stepped =>
          obtain ⟨added, step⟩ := World.stepCases present unordered stepped
          obtain ⟨later, there, _, _, _, same⟩ := step.staffed present
          exact ⟨later, there, same.trans unordered⟩
      | outside moved => exact ⟨worker, moved.workerSame.trans present, unordered⟩

theorem Reachable.unordered (reached : Reachable source remote capacity world)
    (present : world.worker = some worker) : worker.cancelled = false := by
  obtain ⟨_, there, unordered⟩ := reached.staffed
  exact Option.some.inj (there.symm.trans present) ▸ unordered

/-- A run only adds to the chronicle. -/
theorem Reachable.grows (reached : Reachable source remote capacity world)
    (run : Run source remote world final) :
    ∃ more, final.chronicle = world.chronicle ++ more := by
  induction run with
  | refl => exact ⟨[], (List.append_nil _).symm⟩
  | tail run move inductionHypothesis =>
      obtain ⟨more, grown⟩ := inductionHypothesis
      cases move with
      | work stepped =>
          obtain ⟨worker, present, unordered⟩ := (reached.run run).staffed
          obtain ⟨added, step⟩ := World.stepCases present unordered stepped
          exact ⟨more ++ added, by rw [step.chronicle, grown, List.append_assoc]⟩
      | outside moved =>
          obtain ⟨items, taken⟩ := moved.chronicleAdds
          exact ⟨more ++ items.map .taken, by rw [taken, grown, List.append_assoc]⟩

/-- A worker that came to its end takes no step. -/
theorem World.stepOfFinished (present : world.worker = some worker)
    (unordered : worker.cancelled = false) (finished : worker.phase = .finished) :
    world.step source = none := by
  simp [step, proceed, present, unordered, finished]

/-- After the end of the worker only the consumer makes anything happen. -/
theorem Reachable.afterEnd (reached : Reachable source remote capacity world)
    (present : world.worker = some worker) (finished : worker.phase = .finished)
    (run : Run source remote world final) : final.worker = some worker ∧
      ∃ items : List Item, final.chronicle = world.chronicle ++ items.map .taken := by
  induction run with
  | refl => exact ⟨present, [], (List.append_nil _).symm⟩
  | tail run move inductionHypothesis =>
      obtain ⟨there, items, grown⟩ := inductionHypothesis
      have unordered := (reached.run run).unordered there
      cases move with
      | work stepped =>
          rw [World.stepOfFinished there unordered finished] at stepped
          contradiction
      | outside moved =>
          obtain ⟨others, added⟩ := moved.chronicleAdds
          refine ⟨moved.workerSame.trans there, items ++ others, ?_⟩
          rw [added, grown, List.map_append, List.append_assoc]

/-- Once the worker has left its loop no subscription is opened or fails any more. -/
theorem Reachable.afterLeaving (reached : Reachable source remote capacity world)
    (present : world.worker = some worker) (left : worker.phase.hasLeft = true)
    (run : Run source remote world final) :
    (∃ last, final.worker = some last ∧ last.phase.hasLeft = true) ∧
      final.opened = world.opened ∧ final.failed = world.failed := by
  induction run with
  | refl => exact ⟨⟨worker, present, left⟩, rfl, rfl⟩
  | tail run move inductionHypothesis =>
      obtain ⟨⟨middle, there, leftStill⟩, sameOpened, sameFailed⟩ := inductionHypothesis
      cases move with
      | work stepped =>
          obtain ⟨added, step⟩ :=
            World.stepCases there ((reached.run run).unordered there) stepped
          obtain ⟨leaves, adds⟩ := step.wayOut leftStill
          obtain ⟨opened, failed, _⟩ := World.handlesAdded step.chronicle
          rcases adds with rfl | ⟨number, rfl⟩ | rfl
          all_goals exact ⟨leaves, opened.trans ((List.append_nil _).trans sameOpened),
            failed.trans ((List.append_nil _).trans sameFailed)⟩
      | outside moved =>
          obtain ⟨items, taken⟩ := moved.chronicleAdds
          obtain ⟨_, opened, failed, _⟩ := World.keptByTaking taken
          exact ⟨⟨middle, moved.workerSame.trans there, leftStill⟩, opened.trans sameOpened,
            failed.trans sameFailed⟩

/-- What holds at the start, after every step of the worker and after every other move
holds in every reachable world. -/
theorem Reachable.invariant {holds : Worker Item → World State Item → Prop}
    (atStart : ∀ {idle : World State Item} (topic : String) (policy : RetryPolicy),
      idle.history = [] → idle.coordinator.Reachable →
      holds { topic, policy, token := idle.coordinator.tokens.length }
        (idle.spawn topic policy capacity))
    (atWork : ∀ {worker later : Worker Item} {world next : World State Item}
        {added : List (Happening Item)},
      world.worker = some worker → holds worker world →
      WorkerStep source worker world added next → next.worker = some later → holds later next)
    (atRest : ∀ {worker : Worker Item} {world next : World State Item},
      world.worker = some worker → holds worker world → Outside remote world next →
      holds worker next)
    (reached : Reachable source remote capacity world) (present : world.worker = some worker) :
    holds worker world := by
  induction reached generalizing worker with
  | start fresh coordinator topic policy =>
      exact Option.some.inj present ▸ atStart topic policy fresh coordinator
  | next reached move inductionHypothesis =>
      obtain ⟨before, there, unordered⟩ := reached.staffed
      have held := inductionHypothesis there
      cases move with
      | work stepped =>
          obtain ⟨added, step⟩ := World.stepCases there unordered stepped
          exact atWork there held step present
      | outside moved =>
          obtain rfl := Option.some.inj (present.symm.trans (moved.workerSame.trans there))
          exact atRest there held moved

/-- Whoever has left its loop did so by the signal, and nobody stopped it. -/
def LeftBySignal (worker : Worker Item) (world : World State Item) : Prop :=
  worker.phase.hasLeft = true →
    worker.phase ≠ .stopped ∧ world.coordinator.signalArrives = true

theorem Reachable.leftBySignal (reached : Reachable source remote capacity world)
    (present : world.worker = some worker) : LeftBySignal worker world := by
  refine reached.invariant ?_ ?_ ?_ present
  · intro _ _ _ _ _ left
    cases left
  · intro worker later world next _ present held step there left
    rcases step.leaves present there left with before | ⟨_, signal, rfl⟩
    · refine ⟨?_, step.signalStays (held before).2⟩
      intro stopped
      obtain ⟨_, rfl⟩ := step.finishes present there (stopped ▸ rfl)
      obtain rfl := Option.some.inj there
      contradiction
    · obtain rfl := Option.some.inj there
      exact ⟨nofun, step.signalStays signal⟩
  · intro _ _ _ _ held moved left
    exact ⟨(held left).1, moved.signalStays (held left).2⟩

/-- Whoever is over came to its end by the signal. -/
theorem Reachable.endedBySignal (reached : Reachable source remote capacity world)
    (present : world.worker = some worker) (isOver : worker.phase.isOver = true) :
    worker.phase = .finished ∧ world.coordinator.signalArrives = true := by
  obtain ⟨unstopped, signal⟩ := reached.leftBySignal present (Phase.leftOfOver isOver)
  refine ⟨?_, signal⟩
  cases phase : worker.phase with
  | finished => rfl
  | stopped => exact absurd phase unstopped
  | _ =>
      rw [phase] at isOver
      cases isOver

/-- The token of the worker is held exactly until the worker is over. -/
def TokenHeld (worker : Worker Item) (world : World State Item) : Prop :=
  world.coordinator.tokens[worker.token]? = some (!worker.phase.isOver)

theorem Reachable.tokenHeld (reached : Reachable source remote capacity world)
    (present : world.worker = some worker) : TokenHeld worker world := by
  refine reached.invariant ?_ ?_ ?_ present
  · intro idle topic policy _ _
    exact List.getElem?_concat_length
  · intro worker later world next _ present held step there
    obtain ⟨_, same, _, _, token, _⟩ := step.staffed present
    obtain rfl := Option.some.inj (there.symm.trans same)
    rw [TokenHeld, step.going] at held
    rw [TokenHeld, token]
    cases isOver : later.phase.isOver with
    | true =>
        obtain ⟨_, rfl⟩ := step.finishes present there isOver
        exact Coordinator.tokenEnded held
    | false =>
        rcases step.coordinatorEnds with unchanged | ⟨_, rfl, _⟩
        · rw [unchanged]
          exact held
        · obtain rfl := Option.some.inj there
          contradiction
  · intro worker world next present held moved
    rcases moved.coordinatorActs with same | ⟨action, _, foreign, acted⟩
    · rw [TokenHeld, same]
      exact held
    · rw [TokenHeld, acted]
      exact Coordinator.tokenKept world.clock held (foreign worker present)

end NodeBridge.Observer
