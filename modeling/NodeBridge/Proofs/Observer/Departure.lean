import NodeBridge.Proofs.Observer.Bookkeeping
import NodeBridge.Proofs.Observer.Precedence

/-
This file follows a worker whose consumer leaves the feed.
A worker that waits for room goes on at once, it warns about its lost consumer once in its life,
and it keeps its subscription, while nothing more is forwarded.
-/

namespace NodeBridge.Observer

variable {State Item : Type}

/-- The worker warns when it finds its feed closed. -/
def lostConsumer (topic : String) : Event :=
  ⟨.warn, .observer, "No consumer left, discarding items",
    [("topic", .shown topic), ("error", .shown "downstream feed closed")]⟩

@[simp] def Happening.unwanted? : Happening Item → Option Item
  | unwanted item => some item
  | _ => none

/-- So often the happenings in the life of a worker led to the warning. -/
def World.warnings (topic : String) (world : World State Item) : Nat :=
  (world.chronicle.flatMap (Happening.events topic)).count (lostConsumer topic)

/-- The source has a word of its own in the log when it remarks on something or closes. -/
inductive SourceSays (source : Source State Item) (worker : Worker Item)
    (world : World State Item) : List Event → Prop where
  | nothing : SourceSays source worker world []
  | remark {number : Nat} {event : Event} {state : State}
      (ready : source.delivery? world.clock number world.source = some (.remark event, state)) :
      SourceSays source worker world [event]
  | closing {number : Nat} (phase : worker.phase = .leaving (some number)) :
      SourceSays source worker world (source.close world.clock number world.source).2

variable {source : Source State Item} {remote : State → State → Prop} {capacity : Nat}
  {world next final : World State Item} {worker later : Worker Item} {topic : String}
  {added : List (Happening Item)}

section Log

/-- Only an item that nobody wants leads to the warning. -/
theorem warningHappening (topic : String) (happening : Happening Item) :
    (happening.events topic).count (lostConsumer topic) = happening.unwanted?.toList.length := by
  cases happening <;>
    simp [Happening.events, Happening.report, lostConsumer, Feed.ForwardError.message]

theorem warningsAdded (chronicle : next.chronicle = world.chronicle ++ added) :
    next.warnings topic = world.warnings topic + (added.filterMap Happening.unwanted?).length := by
  have counted (added : List (Happening Item)) :
      (added.flatMap (Happening.events topic)).count (lostConsumer topic) =
        (added.filterMap Happening.unwanted?).length := by
    induction added with
    | nil => rfl
    | cons happening rest inductionHypothesis =>
        rw [List.flatMap_cons, List.count_append, warningHappening, inductionHypothesis,
          List.filterMap_cons]
        cases happening.unwanted? with
        | none => exact Nat.zero_add _
        | some item => exact Nat.add_comm _ _
  rw [World.warnings, chronicle, List.flatMap_append, List.count_append, counted added,
    World.warnings]

/-- What is cut off leaves no trace in the log, and neither does an announcement. -/
theorem World.eventsLeave (worker : Worker Item) (world : World State Item) :
    (world.leave worker).events =
      world.events ++ worker.parting.flatMap (Happening.events worker.topic) := by
  cases phase : worker.phase <;>
    simp [leave, cutOff, record, setWorker, Worker.parting, phase, Happening.events]

/-- The log of a step is what its happenings report, after what the source says. -/
theorem WorkerStep.events (step : WorkerStep source worker world added next) :
    ∃ remarks, SourceSays source worker world remarks ∧
      next.events = world.events ++ (remarks ++ added.flatMap (Happening.events worker.topic)) := by
  have plain (events : next.events =
        world.events ++ added.flatMap (Happening.events worker.topic)) :
      ∃ remarks, SourceSays source worker world remarks ∧ next.events = world.events ++
        (remarks ++ added.flatMap (Happening.events worker.topic)) := ⟨[], .nothing, events⟩
  cases step with
  | remark phase quiet ready => exact ⟨_, .remark ready, rfl⟩
  | close phase => exact ⟨_, .closing phase, by
      simp [World.closeHeld, World.record, World.report, World.setWorker, Happening.events]⟩
  | leave heeds signal => exact plain (World.eventsLeave worker world)
  | offer =>
      refine plain ?_
      cases (world.channel.offer _).1 <;>
        simp [World.handOver, World.record, World.setWorker, Happening.ofProgress]
  | poll =>
      refine plain ?_
      cases (world.channel.poll _).1 <;>
        simp [World.handOver, World.record, World.setWorker, Happening.ofProgress]
  | _ =>
      refine plain ?_
      simp [World.beginOpen, World.subscribed, World.refused, World.broken, World.beginPause,
        World.closeHeld, World.finish, World.record, World.setWorker]

end Log

/-- The worker has warned exactly if it knows that its feed is closed, and whoever waits for room
does not know it. -/
structure Warned (worker : Worker Item) (world : World State Item) : Prop where
  warnings : world.warnings worker.topic = worker.feedClosed.toNat
  hopes : worker.phase.sender?.isSome = true → worker.feedClosed = false

namespace Warned

/-- Whoever does not learn anything new about the feed has nothing to warn about. -/
theorem quiet (warned : Warned worker world) (chronicle : next.chronicle = world.chronicle ++ added)
    (silent : added.filterMap Happening.unwanted? = []) (topic : later.topic = worker.topic)
    (same : later.feedClosed = worker.feedClosed)
    (hopes : later.phase.sender?.isSome = true → worker.feedClosed = false) :
    Warned later next := by
  refine ⟨?_, fun waits => same.trans (hopes waits)⟩
  rw [warningsAdded chronicle, silent, topic, same]
  exact warned.warnings

/-- Whoever finds the feed closed for the first time warns. -/
theorem handOver {number : Nat} {item : Item} {progress : Feed.Progress}
    {channel : Feed.Channel Item} (warned : Warned worker world)
    (unshut : worker.feedClosed = false)
    (there : ({ world with channel }.handOver worker number item progress).worker = some later) :
    Warned later ({ world with channel }.handOver worker number item progress) := by
  have chronicle : ({ world with channel }.handOver worker number item progress).chronicle =
      world.chronicle ++ Happening.ofProgress item progress :=
    World.chronicleHandOver number item progress
  cases progress with
  | accepted | waits =>
      obtain rfl := Option.some.inj there
      exact warned.quiet chronicle rfl rfl rfl fun _ => unshut
  | closed =>
      obtain rfl := Option.some.inj there
      refine ⟨?_, fun waits => by contradiction⟩
      rw [warningsAdded chronicle, warned.warnings, unshut]
      rfl

theorem work (present : world.worker = some worker) (warned : Warned worker world)
    (step : WorkerStep source worker world added next) (there : next.worker = some later) :
    Warned later next := by
  have chronicle := step.chronicle
  cases step with
  | start | subscribe | refuse | retry | deliver | fail | ignore | close | spare | finish =>
      obtain rfl := Option.some.inj there
      exact warned.quiet chronicle rfl rfl rfl fun waits => by contradiction
  | remark phase =>
      obtain rfl := Option.some.inj (present.symm.trans there)
      exact warned.quiet chronicle rfl rfl rfl warned.hopes
  | offer phase unshut => exact warned.handOver unshut there
  | poll phase => exact warned.handOver (warned.hopes (by simp [phase])) there
  | leave =>
      obtain rfl := Option.some.inj there
      have silent : worker.parting.filterMap Happening.unwanted? = [] := by
        cases phase : worker.phase <;> simp [Worker.parting, phase, List.filterMap_cons]
      exact warned.quiet chronicle silent rfl rfl fun waits => by contradiction

end Warned

theorem Reachable.warned (reached : Reachable source remote capacity world)
    (present : world.worker = some worker) : Warned worker world := by
  refine reached.invariant ?_ (fun present held step there => held.work present step there) ?_
    present
  · intro idle topic policy fresh _
    refine ⟨?_, fun waits => by contradiction⟩
    rw [World.warnings, World.chronicleSpawn topic policy capacity fresh]
    rfl
  · intro worker world next _ warned moved
    obtain ⟨items, chronicle⟩ := moved.chronicleAdds
    exact warned.quiet chronicle (World.takingUnseen _ _ fun _ => rfl) rfl rfl warned.hopes

section Closed

/-- A closed feed stays closed, and nothing gets into it. -/
theorem WorkerStep.afterClose (step : WorkerStep source worker world added next)
    (closed : world.channel.isOpen = false) :
    next.channel.isOpen = false ∧ added.filterMap Happening.forwarded? = [] := by
  cases step with
  | @offer number item =>
      rcases world.channel.offerCases item with ⟨_, refused⟩ | ⟨isOpen, _⟩ | ⟨isOpen, _⟩
      · rw [refused]
        exact ⟨closed, rfl⟩
      · simp [closed] at isOpen
      · simp [closed] at isOpen
  | @poll number ticket item =>
      rcases world.channel.pollCases ticket with ⟨_, refused⟩ | ⟨isOpen, _⟩ | ⟨isOpen, _⟩
      · rw [refused]
        exact ⟨(Feed.Channel.isOpenReserve _).trans closed, rfl⟩
      · simp [closed] at isOpen
      · simp [closed] at isOpen
  | leave =>
      refine ⟨?_, (itemsParting worker).2.1⟩
      rw [(World.leaveKeeps worker world).2.2.2.2, World.channelCutOff]
      cases worker.phase.sender? with
      | none => exact closed
      | some sender => exact (Feed.Channel.isOpenReserve _).trans closed
  | _ => exact ⟨closed, rfl⟩

theorem Outside.afterClose (moved : Outside remote world next)
    (closed : world.channel.isOpen = false) : next.channel.isOpen = false := by
  cases moved with
  | take taken =>
      obtain ⟨channel, found, rfl⟩ := World.takeCases taken
      exact (Feed.Channel.isOpenTake found).trans closed
  | leave => rfl
  | _ => exact closed

/-- Once the feed is closed nothing is forwarded and nothing is counted as forwarded. -/
theorem Reachable.afterClose (reached : Reachable source remote capacity world)
    (present : world.worker = some worker) (closed : world.channel.isOpen = false)
    (run : Run source remote world final) : final.channel.isOpen = false ∧
      final.forwarded = world.forwarded ∧
      final.metrics.count (.itemsForwarded worker.topic) =
        world.metrics.count (.itemsForwarded worker.topic) ∧
      ∃ later, final.worker = some later ∧ later.topic = worker.topic := by
  induction run with
  | refl => exact ⟨closed, rfl, rfl, worker, present, rfl⟩
  | tail run move inductionHypothesis =>
      obtain ⟨isClosed, forwarded, counted, middle, there, topic⟩ := inductionHypothesis
      cases move with
      | work stepped =>
          obtain ⟨added, step⟩ := World.stepCases there ((reached.run run).unordered there) stepped
          obtain ⟨later, same, sameTopic, _⟩ := step.staffed there
          obtain ⟨stillClosed, nothing⟩ := step.afterClose isClosed
          refine ⟨stillClosed, ?_, ?_, later, same, sameTopic.trans topic⟩
          · rw [(World.itemsAdded step.chronicle).2.1, nothing, List.append_nil, forwarded]
          · have counts : (added.filterMap (Happening.counter? worker.topic)).count
                (.itemsForwarded worker.topic) = (added.filterMap Happening.forwarded?).length :=
              countChosen (by rintro ⟨⟩ <;> simp) added
            rw [step.metrics, topic, countTally _ _ (by simp), counts, nothing, counted]
            rfl
      | outside moved =>
          obtain ⟨items, chronicle⟩ := moved.chronicleAdds
          obtain ⟨⟨_, same, _⟩, _⟩ := World.keptByTaking chronicle
          refine ⟨moved.afterClose isClosed, same.trans forwarded, ?_, middle,
            moved.workerSame.trans there, topic⟩
          rw [← counted]
          rcases moved.metrics with same | ⟨call, failed⟩
          · rw [same]
          · rw [failed, Metrics.countIncrement, if_neg (by simp), Nat.add_zero]

end Closed

/-- On its whole way out a worker closes what it held. -/
theorem World.closedOnExit (source : Source State Item) (held : Option Nat)
    (worker leaver ender : Worker Item) (world : World State Item) :
    (((world.leave worker).closeHeld source held leaver).finish ender).closed =
      world.closed ++ held.toList := by
  obtain ⟨_, _, left⟩ := handlesAdded (chronicleLeave worker world)
  obtain ⟨_, _, closes⟩ :=
    handlesAdded (chronicleCloseHeld leaver (world.leave worker) source held)
  have ended : (((world.leave worker).closeHeld source held leaver).finish ender).chronicle =
      ((world.leave worker).closeHeld source held leaver).chronicle ++ [.ended] :=
    List.reverse_cons
  obtain ⟨_, _, same⟩ := handlesAdded ended
  rw [same, closes, left, (handlesParting worker).2.2]
  cases held <;> simp

/-- This is what it means to a worker that its consumer leaves the feed at this moment. -/
structure FeedLeft (source : Source State Item) (remote : State → State → Prop)
    (worker : Worker Item) (world : World State Item) : Prop where
  /-- Whoever waits for room goes on with its next step, still holding its subscription. -/
  resumes : ∀ number item ticket, worker.phase = .blocked number item ticket →
    world.coordinator.signalArrives = false →
    ∃ next later, world.dropFeed.step source = some next ∧ next.worker = some later ∧
      later.phase = .watching number ∧ later.feedClosed = true ∧ next.clock = world.clock ∧
      next.source = world.source ∧ next.chronicle = world.chronicle ++ [.unwanted item] ∧
      next.events = world.events ++ [lostConsumer worker.topic]
  /-- With the signal it comes to its end instead and closes its subscription. -/
  exits : ∀ number item ticket, worker.phase = .blocked number item ticket →
    world.coordinator.signalArrives = true →
    Concludes source world.dropFeed fun final => final.closed = world.closed ++ [number]
  /-- No subscription is closed or fails because the consumer leaves. -/
  spares : world.dropFeed.worker = some worker ∧ world.dropFeed.source = world.source ∧
    world.dropFeed.closed = world.closed ∧ world.dropFeed.failed = world.failed
  /-- From its start on the worker warns at most once, however many subscriptions it has. -/
  warnsOnce : ∀ final, Run source remote world.dropFeed final →
    final.warnings worker.topic ≤ 1
  /-- A step logs what its happenings report, and only the source adds a word of its own. -/
  logs : ∀ final later next, Run source remote world.dropFeed final → final.worker = some later →
    final.step source = some next → ∃ added remarks, next.chronicle = final.chronicle ++ added ∧
      SourceSays source later final remarks ∧ later.topic = worker.topic ∧
      next.events = final.events ++ (remarks ++ added.flatMap (Happening.events worker.topic))
  /-- Nothing is forwarded any more, and nothing is counted as forwarded. -/
  forwardsNothing : ∀ final, Run source remote world.dropFeed final →
    final.forwarded = world.forwarded ∧ final.metrics.count (.itemsForwarded worker.topic) =
      world.metrics.count (.itemsForwarded worker.topic)

/-- A consumer that leaves sets the worker free and costs it one warning. -/
theorem Reachable.feedLeft (reached : Reachable source remote capacity world)
    (present : world.worker = some worker) : FeedLeft source remote worker world := by
  have unordered := reached.unordered present
  have left : Reachable source remote capacity world.dropFeed := .next reached (.outside .leave)
  have after {final : World State Item} (run : Run source remote world.dropFeed final) :=
    left.afterClose present rfl run
  refine ⟨?_, ?_, ⟨present, rfl, rfl, rfl⟩, ?_, ?_, fun final run => ?_⟩
  · intro number item ticket phase quiet
    have polled : world.dropFeed.channel.poll ticket =
        (.closed, world.dropFeed.channel.cancel ticket) := rfl
    have stepped : world.dropFeed.step source =
        some (({ world.dropFeed with channel := world.dropFeed.channel.cancel ticket }).handOver
          worker number item .closed) := by
      have there : world.dropFeed.worker = some worker := present
      have silent : world.dropFeed.coordinator.signalArrives = false := quiet
      simp [World.step, World.proceed, there, unordered, phase, silent, polled]
    exact ⟨_, _, stepped, rfl, rfl, rfl, rfl, rfl, by simp [World.handOver]; rfl, rfl⟩
  · intro number item ticket phase signal
    refine Concludes.ofHeeds present unordered (by simp [Worker.heeds, phase]) signal ?_
    rw [World.closedOnExit, phase]
    rfl
  · intro final run
    obtain ⟨_, _, _, later, there, topic⟩ := after run
    rw [← topic, ((left.run run).warned there).warnings]
    exact Bool.toNat_le _
  · intro final later next run there stepped
    obtain ⟨_, _, _, same, thereToo, topic⟩ := after run
    obtain rfl := Option.some.inj (there.symm.trans thereToo)
    obtain ⟨added, step⟩ := World.stepCases there ((left.run run).unordered there) stepped
    obtain ⟨remarks, remarked, events⟩ := step.events
    rw [topic] at events
    exact ⟨added, remarks, step.chronicle, remarked, topic, events⟩
  · obtain ⟨_, forwarded, counted, _⟩ := after run
    exact ⟨forwarded, counted⟩

end NodeBridge.Observer
