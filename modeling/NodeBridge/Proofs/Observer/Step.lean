import NodeBridge.Proofs.Observer.Chronicle

/-
This file says once what a single step of a worker can do.
A worker that heeds the signal leaves its loop as soon as the signal arrives, and then it closes
what it holds and ends its token.
-/

namespace NodeBridge.Observer

variable {State Item : Type}

/-- In these situations the worker looks at the signal before everything else. -/
def Worker.heeds (worker : Worker Item) : Bool :=
  match worker.phase with
  | .pausing _ => true
  | .watching _ => true
  | .handing _ _ => !worker.feedClosed
  | .blocked _ _ _ => true
  | _ => false

/-- Whoever heeds the signal is still in its loop. -/
theorem Worker.stayedOfHeeds {worker : Worker Item} (heeds : worker.heeds = true) :
    worker.phase.hasLeft = false := by
  cases phase : worker.phase with
  | leaving | ending | finished | stopped => simp [Worker.heeds, phase] at heeds
  | _ => rfl

/-- An item is on its way from its delivery until the feed has it. -/
@[simp] def Phase.inHand? : Phase Item → Option Item
  | .handing _ item => some item
  | .blocked _ item _ => some item
  | _ => none

/-- Whoever is over has left its loop. -/
theorem Phase.leftOfOver {phase : Phase Item} (isOver : phase.isOver = true) :
    phase.hasLeft = true := by
  cases phase with
  | finished | stopped => rfl
  | _ => cases isOver

/-- Nothing is left to be closed. -/
def Phase.hasClosed : Phase Item → Bool
  | .ending => true
  | phase => phase.isOver

/-- Whoever is still in its loop has closed nothing. -/
theorem Phase.unclosedOfStayed {phase : Phase Item} (staying : phase.hasLeft = false) :
    phase.hasClosed = false := by
  cases phase with
  | leaving | ending | finished | stopped => cases staying
  | _ => rfl

/-- The sender of a blocked worker stands in line. -/
@[simp] def Phase.sender? : Phase Item → Option (Nat × Item)
  | .blocked _ item ticket => some (ticket, item)
  | _ => none

/-- Whoever has left its loop has no item on its way. -/
theorem Phase.emptyOfLeft {phase : Phase Item} (left : phase.hasLeft = true) :
    phase.inHand? = none ∧ phase.sender? = none := by
  cases phase with
  | leaving | ending | finished | stopped => exact ⟨rfl, rfl⟩
  | _ => cases left

/-- This becomes of an item that is handed on. -/
def Happening.ofProgress (item : Item) : Feed.Progress → List (Happening Item)
  | .accepted => [.forwarded item]
  | .closed => [.unwanted item]
  | .waits _ => []

/-- A worker that leaves its loop cuts off what is on its way and then announces its end. -/
def Worker.parting (worker : Worker Item) : List (Happening Item) :=
  worker.phase.inHand?.toList.map .cutOff ++ [.changed .terminating]

/-- Whoever leaves obtains and forwards nothing, and it cuts off what was in hand. -/
theorem itemsParting (worker : Worker Item) :
    worker.parting.filterMap Happening.delivered? = [] ∧
    worker.parting.filterMap Happening.forwarded? = [] ∧
    worker.parting.filterMap Happening.taken? = [] ∧
    worker.parting.filterMap Happening.cutOff? = worker.phase.inHand?.toList := by
  cases phase : worker.phase <;> simp [Worker.parting, phase, List.filterMap_cons]

/-- Whoever leaves goes on holding what it held. -/
theorem handlesParting (worker : Worker Item) :
    worker.parting.filterMap Happening.established? = [] ∧
    worker.parting.filterMap Happening.broken? = [] ∧
    worker.parting.filterMap Happening.closed? = [] := by
  cases phase : worker.phase <;> simp [Worker.parting, phase, List.filterMap_cons]

/-- A step of a worker that nobody cancelled is one of these, each under its guards.
It adds the listed happenings to the chronicle. -/
inductive WorkerStep (source : Source State Item) (worker : Worker Item)
    (world : World State Item) : List (Happening Item) → World State Item → Prop where
  | start (phase : worker.phase = .created) :
      WorkerStep source worker world [.started, .attempted]
        ((world.record worker.topic .started).beginOpen source worker)
  | subscribe {topic : String} {state : State} (phase : worker.phase = .opening)
      (completed : source.completion? world.clock world.source = some (.ok topic, state)) :
      WorkerStep source worker world [.established worker.opened topic, .changed .subscribed]
        ({ world with source := state }.subscribed topic worker)
  | refuse {error : OpenError} {state : State} (phase : worker.phase = .opening)
      (completed : source.completion? world.clock world.source = some (.error error, state)) :
      WorkerStep source worker world
        [.refused error (RetryPolicy.nextFailure worker.failures),
          .delayed (RetryPolicy.nextFailure worker.failures)]
        ({ world with source := state }.refused error worker)
  | retry {due : Nat} (phase : worker.phase = .pausing due)
      (quiet : world.coordinator.signalArrives = false) (expired : due ≤ world.clock) :
      WorkerStep source worker world [.attempted] (world.beginOpen source worker)
  | deliver {number : Nat} {item : Item} {state : State} (phase : worker.phase = .watching number)
      (quiet : world.coordinator.signalArrives = false)
      (ready : source.delivery? world.clock number world.source = some (.item item, state)) :
      WorkerStep source worker world [.delivered number item]
        (({ world with source := state }.record worker.topic (.delivered number item)).setWorker
          { worker with phase := .handing number item })
  | remark {number : Nat} {event : Event} {state : State} (phase : worker.phase = .watching number)
      (quiet : world.coordinator.signalArrives = false)
      (ready : source.delivery? world.clock number world.source = some (.remark event, state)) :
      WorkerStep source worker world [] ({ world with source := state }.report [event])
  | fail {number : Nat} {error : StreamError} {state : State}
      (phase : worker.phase = .watching number)
      (quiet : world.coordinator.signalArrives = false)
      (ready : source.delivery? world.clock number world.source = some (.failure error, state)) :
      WorkerStep source worker world
        [.broken number error, .changed .unsubscribed,
          .delayed (RetryPolicy.nextFailure worker.failures)]
        ({ world with source := state }.broken source number error worker)
  | ignore {number : Nat} {item : Item} (phase : worker.phase = .handing number item)
      (shut : worker.feedClosed = true) :
      WorkerStep source worker world [.ignored item]
        ((world.record worker.topic (.ignored item)).setWorker
          { worker with phase := .watching number })
  | offer {number : Nat} {item : Item} (phase : worker.phase = .handing number item)
      (unshut : worker.feedClosed = false) (quiet : world.coordinator.signalArrives = false) :
      WorkerStep source worker world (Happening.ofProgress item (world.channel.offer item).1)
        ({ world with channel := (world.channel.offer item).2 }.handOver worker number item
          (world.channel.offer item).1)
  | poll {number ticket : Nat} {item : Item} (phase : worker.phase = .blocked number item ticket)
      (quiet : world.coordinator.signalArrives = false)
      (moved : ∀ later, (world.channel.poll ticket).1 ≠ .waits later) :
      WorkerStep source worker world (Happening.ofProgress item (world.channel.poll ticket).1)
        ({ world with channel := (world.channel.poll ticket).2 }.handOver worker number item
          (world.channel.poll ticket).1)
  | leave (heeds : worker.heeds = true) (signal : world.coordinator.signalArrives = true) :
      WorkerStep source worker world worker.parting (world.leave worker)
  | close {number : Nat} (phase : worker.phase = .leaving (some number)) :
      WorkerStep source worker world [.closed number] (world.closeHeld source (some number) worker)
  | spare (phase : worker.phase = .leaving none) :
      WorkerStep source worker world [] (world.closeHeld source none worker)
  | finish (phase : worker.phase = .ending) :
      WorkerStep source worker world [.ended] (world.finish worker)

namespace World

variable {source : Source State Item} {worker : Worker Item} {world next : World State Item}

/-- Every step is one of the listed ones. -/
theorem proceedCases (proceeded : world.proceed source worker = some next) :
    ∃ added, WorkerStep source worker world added next := by
  unfold proceed at proceeded
  cases phase : worker.phase with
  | created =>
      simp only [phase, Option.some.injEq] at proceeded
      exact proceeded ▸ ⟨_, .start phase⟩
  | opening =>
      simp only [phase] at proceeded
      split at proceeded
      · contradiction
      case h_2 completed => exact Option.some.inj proceeded ▸ ⟨_, .subscribe phase completed⟩
      case h_3 completed => exact Option.some.inj proceeded ▸ ⟨_, .refuse phase completed⟩
  | pausing due =>
      simp only [phase] at proceeded
      split at proceeded
      case isTrue signal =>
        exact Option.some.inj proceeded ▸ ⟨_, .leave (by simp [Worker.heeds, phase]) signal⟩
      case isFalse quiet =>
        split at proceeded
        case isTrue expired =>
          exact Option.some.inj proceeded ▸ ⟨_, .retry phase (by simpa using quiet) expired⟩
        case isFalse => contradiction
  | watching number =>
      simp only [phase] at proceeded
      split at proceeded
      case isTrue signal =>
        exact Option.some.inj proceeded ▸ ⟨_, .leave (by simp [Worker.heeds, phase]) signal⟩
      case isFalse loud =>
        have quiet : world.coordinator.signalArrives = false := by simpa using loud
        split at proceeded
        · contradiction
        case h_2 ready => exact Option.some.inj proceeded ▸ ⟨_, .deliver phase quiet ready⟩
        case h_3 ready => exact Option.some.inj proceeded ▸ ⟨_, .remark phase quiet ready⟩
        case h_4 ready => exact Option.some.inj proceeded ▸ ⟨_, .fail phase quiet ready⟩
  | handing number item =>
      simp only [phase] at proceeded
      split at proceeded
      case isTrue shut => exact Option.some.inj proceeded ▸ ⟨_, .ignore phase shut⟩
      case isFalse open_ =>
        have unshut : worker.feedClosed = false := by simpa using open_
        split at proceeded
        case isTrue signal =>
          have heeds : worker.heeds = true := by simp [Worker.heeds, phase, unshut]
          exact Option.some.inj proceeded ▸ ⟨_, .leave heeds signal⟩
        case isFalse loud =>
          exact Option.some.inj proceeded ▸ ⟨_, .offer phase unshut (by simpa using loud)⟩
  | blocked number item ticket =>
      simp only [phase] at proceeded
      split at proceeded
      case isTrue signal =>
        exact Option.some.inj proceeded ▸ ⟨_, .leave (by simp [Worker.heeds, phase]) signal⟩
      case isFalse loud =>
        have quiet : world.coordinator.signalArrives = false := by simpa using loud
        split at proceeded
        · contradiction
        case h_2 progress channel moved polled =>
          have moves : ∀ later, (world.channel.poll ticket).1 ≠ .waits later := by
            intro later waits
            rw [polled] at waits
            exact moved later waits
          have step : WorkerStep source worker world _ _ := .poll phase quiet moves
          rw [polled] at step
          exact Option.some.inj proceeded ▸ ⟨_, step⟩
  | leaving held =>
      simp only [phase, Option.some.injEq] at proceeded
      cases held with
      | some number => exact proceeded ▸ ⟨_, .close phase⟩
      | none => exact proceeded ▸ ⟨_, .spare phase⟩
  | ending =>
      simp only [phase, Option.some.injEq] at proceeded
      exact proceeded ▸ ⟨_, .finish phase⟩
  | finished => simp [phase] at proceeded
  | stopped => simp [phase] at proceeded

theorem stepCases (present : world.worker = some worker) (unordered : worker.cancelled = false)
    (stepped : world.step source = some next) :
    ∃ added, WorkerStep source worker world added next := by
  simp only [step, present, unordered, Bool.false_and, Bool.false_eq_true, if_false] at stepped
  exact proceedCases stepped

/-- A worker that heeds a signal that arrives leaves its loop in one step. -/
theorem stepOfSignal (present : world.worker = some worker) (unordered : worker.cancelled = false)
    (heeds : worker.heeds = true) (signal : world.coordinator.signalArrives = true) :
    world.step source = some (world.leave worker) := by
  simp only [step, present, unordered, Bool.false_and, Bool.false_eq_true, if_false]
  unfold Worker.heeds at heeds
  cases phase : worker.phase <;> simp_all [proceed]

/-- Whoever has left its loop waits for nothing before it is over. -/
theorem stepOfLeaving {held : Option Nat} (present : world.worker = some worker)
    (unordered : worker.cancelled = false) (phase : worker.phase = .leaving held) :
    world.step source = some (world.closeHeld source held worker) := by
  simp [step, proceed, present, unordered, phase]

theorem stepOfEnding (present : world.worker = some worker) (unordered : worker.cancelled = false)
    (phase : worker.phase = .ending) : world.step source = some (world.finish worker) := by
  simp [step, proceed, present, unordered, phase]

section Leaving

variable (worker world)

theorem chronicleCutOff : (world.cutOff worker).chronicle =
    world.chronicle ++ worker.phase.inHand?.toList.map .cutOff := by
  cases phase : worker.phase <;> simp [cutOff, phase, Phase.inHand?, chronicle, record]

theorem chronicleLeave : (world.leave worker).chronicle = world.chronicle ++ worker.parting := by
  simp [leave, chronicleCutOff, Worker.parting]

@[simp] theorem chronicleCloseHeld (source : Source State Item) (held : Option Nat) :
    (world.closeHeld source held worker).chronicle =
      world.chronicle ++ held.toList.map .closed := by
  cases held <;> simp [closeHeld]

/-- Whoever waits in line leaves it. -/
theorem channelCutOff : (world.cutOff worker).channel =
    match worker.phase.sender? with
    | none => world.channel
    | some (ticket, _) => world.channel.cancel ticket := by
  cases phase : worker.phase <;> simp [cutOff, phase, Phase.sender?, record]

@[simp] theorem cutOffKeeps : (world.cutOff worker).clock = world.clock ∧
    (world.cutOff worker).coordinator = world.coordinator ∧
    (world.cutOff worker).source = world.source ∧
    (world.cutOff worker).feedHeld = world.feedHeld := by
  cases phase : worker.phase <;> simp [cutOff, phase, record]

@[simp] theorem leaveKeeps : (world.leave worker).clock = world.clock ∧
    (world.leave worker).coordinator = world.coordinator ∧
    (world.leave worker).source = world.source ∧
    (world.leave worker).feedHeld = world.feedHeld ∧
    (world.leave worker).channel = (world.cutOff worker).channel := by
  simp [leave, setWorker, record]

theorem attemptsLeave : (world.leave worker).attempts = world.attempts := by
  have cutOff : (world.cutOff worker).attempts = world.attempts := by
    cases phase : worker.phase <;> simp [World.cutOff, phase]
  simp [leave, cutOff]

end Leaving

theorem chronicleHandOver (number : Nat) (item : Item) (progress : Feed.Progress) :
    (world.handOver worker number item progress).chronicle =
      world.chronicle ++ Happening.ofProgress item progress := by
  cases progress <;> simp [handOver, Happening.ofProgress]

@[simp] theorem clockHandOver (number : Nat) (item : Item) (progress : Feed.Progress) :
    (world.handOver worker number item progress).clock = world.clock := by
  cases progress <;> rfl

@[simp] theorem coordinatorHandOver (number : Nat) (item : Item) (progress : Feed.Progress) :
    (world.handOver worker number item progress).coordinator = world.coordinator := by
  cases progress <;> rfl

/-- Whatever becomes of an item, the worker goes on without an attempt. -/
theorem workerHandOver (number : Nat) (item : Item) (progress : Feed.Progress) :
    ∃ later, (world.handOver worker number item progress).worker = some later ∧
      later.topic = worker.topic ∧ later.policy = worker.policy ∧ later.token = worker.token ∧
      later.cancelled = worker.cancelled ∧ later.phase.hasLeft = false ∧
      later.phase ≠ .opening := by
  cases progress with
  | accepted | closed | waits => exact ⟨_, rfl, rfl, rfl, rfl, rfl, rfl, by simp⟩

end World

namespace WorkerStep

variable {source : Source State Item} {worker : Worker Item} {world next : World State Item}
  {added : List (Happening Item)}

/-- A step adds exactly what is listed for it. -/
theorem chronicle (step : WorkerStep source worker world added next) :
    next.chronicle = world.chronicle ++ added := by
  cases step with
  | offer => simp [World.chronicleHandOver]
  | poll => simp [World.chronicleHandOver]
  | leave => exact World.chronicleLeave worker world
  | finish => simp [World.finish, World.chronicle, World.record, World.setWorker]
  | _ => simp

/-- A step takes no time. -/
theorem clock (step : WorkerStep source worker world added next) : next.clock = world.clock := by
  cases step with
  | offer | poll => exact World.clockHandOver _ _ _
  | leave => exact (World.leaveKeeps worker world).1
  | _ => rfl

end WorkerStep

end NodeBridge.Observer
