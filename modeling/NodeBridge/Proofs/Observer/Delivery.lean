import NodeBridge.Observer.Script
import NodeBridge.Proofs.Feed.Channel
import NodeBridge.Proofs.Observer.Run

/-
This file accounts for every item that a worker obtains from its subscriptions.
As long as the consumer keeps the feed, an obtained item was taken, is in the buffer, is on its
way or was cut off on its way by the signal, and the order is never changed.
-/

namespace NodeBridge.Observer

variable {State Item : Type}

namespace World

/-- The consumer asks this many times in a row. -/
def receipts : Nat → World State Item → List (Feed.Receipt Item)
  | 0, _ => []
  | count + 1, world =>
      let (receipt, next) := world.receive
      receipt :: receipts count next

/-- Once nothing more will come, the consumer gets the rest of the buffer and then the end. -/
theorem receiptsOfOver {world : World State Item} (isOver : world.mayDeliver = false) (more : Nat) :
    world.receipts (world.channel.buffer.toList.length + more) =
      world.channel.buffer.toList.map .item ++ List.replicate more .ended := by
  generalize content : world.channel.buffer.toList = items
  induction items generalizing world with
  | nil =>
      have empty : world.take? = none := by
        simp [take?, Feed.Channel.takeEqNone.mpr content]
      have ends : world.receive = (.ended, world) := by simp [receive, empty, isOver]
      rw [List.length_nil, Nat.zero_add, List.map_nil, List.nil_append]
      induction more with
      | zero => rfl
      | succ more inductionHypothesis =>
          simp only [receipts, ends, inductionHypothesis, List.replicate_succ]
  | cons item rest inductionHypothesis =>
      cases taken : world.take? with
      | none =>
          have empty : world.channel.take? = none := by simpa [take?] using taken
          rw [Feed.Channel.takeEqNone, content] at empty
          contradiction
      | some pair =>
          obtain ⟨first, next⟩ := pair
          obtain ⟨channel, found, same⟩ := takeCases taken
          have split := Feed.Channel.bufferTake found
          rw [content] at split
          obtain ⟨rfl, rest⟩ := List.cons.inj split
          have gets : world.receive = (.item item, next) := by simp [receive, taken]
          have overNext : next.mayDeliver = false := by
            rw [same]
            exact isOver
          simp only [List.length_cons, Nat.succ_add, receipts, gets, List.map_cons,
            List.cons_append]
          rw [inductionHypothesis overNext (same ▸ rest.symm)]

end World

/-- The items of a feed that is kept are accounted for. -/
structure Accounted (worker : Worker Item) (world : World State Item) : Prop where
  listens : world.channel.isOpen = true ∧ worker.feedClosed = false
  passed : world.forwarded = world.taken ++ world.channel.buffer.toList
  obtained : world.delivered = world.forwarded ++ (worker.phase.inHand?.toList ++ world.cut)

/-- This is what every move keeps between the worker, its feed and the chronicle. -/
structure Flow (capacity : Nat) (worker : Worker Item) (world : World State Item) : Prop where
  bound : world.channel.capacity = (Feed.Channel.ofCapacity capacity : Feed.Channel Item).capacity
  sound : world.channel.Sound worker.phase.sender?
  accounted : world.feedHeld = true → Accounted worker world
  cut : world.cut = [] ∨ (∃ item, world.cut = [item]) ∧ worker.phase.hasLeft = true

variable {source : Source State Item} {remote : State → State → Prop} {capacity : Nat}
  {world next : World State Item} {worker later : Worker Item} {added : List (Happening Item)}

namespace Flow

theorem uncut (flow : Flow capacity worker world) (staying : worker.phase.hasLeft = false) :
    world.cut = [] := by
  rcases flow.cut with uncut | ⟨_, left⟩
  · exact uncut
  · rw [staying] at left
    contradiction

/-- A step keeps the account if what was in hand and what it obtains is what it forwards and
what is in hand after it. -/
theorem after (flow : Flow capacity worker world) (staying : worker.phase.hasLeft = false)
    (chronicle : next.chronicle = world.chronicle ++ added)
    (silent : added.filterMap Happening.taken? = [] ∧ added.filterMap Happening.cutOff? = [])
    (bound : next.channel.capacity = world.channel.capacity)
    (sound : next.channel.Sound later.phase.sender?)
    (feedHeld : next.feedHeld = world.feedHeld)
    (moves : world.channel.isOpen = true ∧ worker.feedClosed = false →
      (next.channel.isOpen = true ∧ later.feedClosed = false) ∧
      next.channel.buffer.toList =
        world.channel.buffer.toList ++ added.filterMap Happening.forwarded? ∧
      worker.phase.inHand?.toList ++ added.filterMap Happening.delivered? =
        added.filterMap Happening.forwarded? ++ later.phase.inHand?.toList) :
    Flow capacity later next := by
  obtain ⟨delivered, forwarded, taken, cut⟩ := World.itemsAdded chronicle
  have uncut := flow.uncut staying
  rw [silent.1, List.append_nil] at taken
  rw [silent.2, uncut, List.append_nil] at cut
  refine ⟨bound.trans flow.bound, sound, ?_, .inl cut⟩
  intro held
  obtain ⟨listens, passed, obtained⟩ := flow.accounted (feedHeld ▸ held)
  obtain ⟨listensLater, buffer, hand⟩ := moves listens
  refine ⟨listensLater, ?_, ?_⟩
  · rw [forwarded, taken, buffer, passed, List.append_assoc]
  · rw [delivered, forwarded, cut, obtained, uncut]
    simp only [List.append_nil, List.append_assoc]
    rw [hand]

/-- Handing an item on moves it from the hand of the worker into the feed. -/
theorem handOver {number : Nat} {item : Item} {progress : Feed.Progress}
    {channel : Feed.Channel Item} (flow : Flow capacity worker world)
    (inHand : worker.phase.inHand? = some item) (staying : worker.phase.hasLeft = false)
    (handed : world.channel.Handed item progress channel)
    (there : ({ world with channel }.handOver worker number item progress).worker = some later) :
    Flow capacity later ({ world with channel }.handOver worker number item progress) := by
  have chronicle : ({ world with channel }.handOver worker number item progress).chronicle =
      world.chronicle ++ Happening.ofProgress item progress :=
    World.chronicleHandOver number item progress
  cases progress with
  | accepted =>
      obtain rfl := Option.some.inj there
      refine flow.after staying chronicle ⟨rfl, rfl⟩ handed.capacity handed.sound rfl ?_
      intro listens
      refine ⟨⟨handed.isOpen.trans listens.1, listens.2⟩, handed.buffer, ?_⟩
      rw [inHand]
      rfl
  | closed =>
      obtain rfl := Option.some.inj there
      refine flow.after staying chronicle ⟨rfl, rfl⟩ handed.capacity handed.sound rfl ?_
      intro listens
      have refused := handed.refused rfl
      rw [listens.1] at refused
      contradiction
  | waits ticket =>
      obtain rfl := Option.some.inj there
      refine flow.after staying chronicle ⟨rfl, rfl⟩ handed.capacity handed.sound rfl ?_
      intro listens
      refine ⟨⟨handed.isOpen.trans listens.1, listens.2⟩, handed.buffer, ?_⟩
      rw [inHand]
      rfl

/-- A worker that leaves its loop leaves the line as well, and the buffer is untouched. -/
theorem channelLeave (flow : Flow capacity worker world) :
    (world.leave worker).channel.Sound none ∧
    (world.leave worker).channel.capacity = world.channel.capacity ∧
    (world.leave worker).channel.isOpen = world.channel.isOpen ∧
    (world.leave worker).channel.buffer = world.channel.buffer := by
  have sound := flow.sound
  rw [(World.leaveKeeps worker world).2.2.2.2, World.channelCutOff]
  cases sender : worker.phase.sender? with
  | none =>
      rw [sender] at sound
      exact ⟨sound, rfl, rfl, rfl⟩
  | some waiting =>
      rw [sender] at sound
      exact ⟨Feed.Channel.soundCancel sound, Feed.Channel.capacityReserve _,
        Feed.Channel.isOpenReserve _, Feed.Channel.bufferReserve _⟩

/-- The item in hand is the only one that is ever cut off. -/
theorem leave (flow : Flow capacity worker world) (staying : worker.phase.hasLeft = false) :
    Flow capacity
      { worker with status := .terminating, phase := .leaving worker.phase.held? }
      (world.leave worker) := by
  obtain ⟨noDelivered, noForwarded, noTaken, cutOff⟩ := itemsParting worker
  obtain ⟨delivered, forwarded, taken, cut⟩ :=
    World.itemsAdded (World.chronicleLeave worker world)
  rw [noDelivered, List.append_nil] at delivered
  rw [noForwarded, List.append_nil] at forwarded
  rw [noTaken, List.append_nil] at taken
  rw [cutOff, flow.uncut staying, List.nil_append] at cut
  obtain ⟨sound, bound, isOpen, buffer⟩ := flow.channelLeave
  refine ⟨bound.trans flow.bound, sound, ?_, ?_⟩
  · intro held
    rw [(World.leaveKeeps worker world).2.2.2.1] at held
    obtain ⟨listens, passed, obtained⟩ := flow.accounted held
    refine ⟨⟨isOpen.trans listens.1, listens.2⟩, ?_, ?_⟩
    · rw [forwarded, taken, buffer, passed]
    · rw [delivered, forwarded, cut, obtained, flow.uncut staying, List.append_nil]
      rfl
  · rw [cut]
    cases worker.phase.inHand? with
    | none => exact .inl rfl
    | some item => exact .inr ⟨⟨item, rfl⟩, rfl⟩

/-- On its way out the worker touches no item. -/
theorem wayOut (flow : Flow capacity worker world) (left : worker.phase.hasLeft = true)
    (leftToo : later.phase.hasLeft = true) (chronicle : next.chronicle = world.chronicle ++ added)
    (silent : added.filterMap Happening.delivered? = [] ∧
      added.filterMap Happening.forwarded? = [] ∧ added.filterMap Happening.taken? = [] ∧
      added.filterMap Happening.cutOff? = [])
    (channel : next.channel = world.channel) (feedHeld : next.feedHeld = world.feedHeld)
    (feedClosed : later.feedClosed = worker.feedClosed) : Flow capacity later next := by
  obtain ⟨delivered, forwarded, taken, cut⟩ := World.itemsAdded chronicle
  rw [silent.1, List.append_nil] at delivered
  rw [silent.2.1, List.append_nil] at forwarded
  rw [silent.2.2.1, List.append_nil] at taken
  rw [silent.2.2.2, List.append_nil] at cut
  obtain ⟨unheld, unsent⟩ := Phase.emptyOfLeft left
  obtain ⟨unheldToo, unsentToo⟩ := Phase.emptyOfLeft leftToo
  refine ⟨?_, ?_, ?_, ?_⟩
  · rw [channel]
    exact flow.bound
  · rw [channel, unsentToo, ← unsent]
    exact flow.sound
  · rw [feedHeld]
    intro held
    obtain ⟨listens, passed, obtained⟩ := flow.accounted held
    refine ⟨?_, ?_, ?_⟩
    · rw [channel, feedClosed]
      exact listens
    · rw [forwarded, taken, channel]
      exact passed
    · rw [delivered, forwarded, cut, unheldToo, ← unheld]
      exact obtained
  · rw [cut]
    exact flow.cut.imp id fun ⟨one, _⟩ => ⟨one, leftToo⟩

theorem work (present : world.worker = some worker) (flow : Flow capacity worker world)
    (step : WorkerStep source worker world added next) (there : next.worker = some later) :
    Flow capacity later next := by
  have chronicle := step.chronicle
  have sound := flow.sound
  cases step with
  | start phase | retry phase | subscribe phase | refuse phase | fail phase =>
      obtain rfl := Option.some.inj there
      rw [phase] at sound
      refine flow.after (by rw [phase]; rfl) chronicle ⟨rfl, rfl⟩ rfl sound rfl ?_
      intro listens
      exact ⟨listens, (List.append_nil _).symm, by rw [phase]; rfl⟩
  | remark phase =>
      obtain rfl := Option.some.inj (present.symm.trans there)
      refine flow.after (by rw [phase]; rfl) chronicle ⟨rfl, rfl⟩ rfl sound rfl ?_
      intro listens
      exact ⟨listens, (List.append_nil _).symm, List.append_nil _⟩
  | deliver phase =>
      obtain rfl := Option.some.inj there
      rw [phase] at sound
      refine flow.after (by rw [phase]; rfl) chronicle ⟨rfl, rfl⟩ rfl sound rfl ?_
      intro listens
      exact ⟨listens, (List.append_nil _).symm, by rw [phase]; rfl⟩
  | ignore phase shut =>
      obtain rfl := Option.some.inj there
      rw [phase] at sound
      refine flow.after (by rw [phase]; rfl) chronicle ⟨rfl, rfl⟩ rfl sound rfl ?_
      intro listens
      rw [shut] at listens
      exact absurd listens.2 Bool.noConfusion
  | offer phase =>
      rw [phase] at sound
      exact flow.handOver (by rw [phase]; rfl) (by rw [phase]; rfl)
        (Feed.Channel.handedOffer sound _) there
  | poll phase =>
      rw [phase] at sound
      exact flow.handOver (by rw [phase]; rfl) (by rw [phase]; rfl)
        (Feed.Channel.handedPoll sound) there
  | leave heeds =>
      obtain rfl := Option.some.inj there
      exact flow.leave (Worker.stayedOfHeeds heeds)
  | close phase | spare phase | finish phase =>
      obtain rfl := Option.some.inj there
      exact flow.wayOut (by rw [phase]; rfl) rfl chronicle ⟨rfl, rfl, rfl, rfl⟩ rfl rfl rfl

/-- The consumer takes the oldest item or lets go of the feed, and nobody else touches it. -/
theorem rest (flow : Flow capacity worker world) (moved : Outside remote world next) :
    Flow capacity worker next := by
  obtain ⟨items, others⟩ := moved.chronicleAdds
  obtain ⟨⟨delivered, forwarded, cut⟩, _⟩ := World.keptByTaking others
  have cutLater : next.cut = [] ∨
      (∃ item, next.cut = [item]) ∧ worker.phase.hasLeft = true := by
    rw [cut]
    exact flow.cut
  cases moved with
  | @take item _ found =>
      obtain ⟨channel, taken, rfl⟩ := World.takeCases found
      refine ⟨(Feed.Channel.capacityTake taken).trans flow.bound,
        Feed.Channel.soundTake flow.sound taken, ?_, cutLater⟩
      intro held
      obtain ⟨listens, passed, obtained⟩ := flow.accounted held
      refine ⟨⟨(Feed.Channel.isOpenTake taken).trans listens.1, listens.2⟩, ?_, ?_⟩
      · have more : World.taken { world with
            channel, history := (world.clock, .taken item) :: world.history } =
            world.taken ++ [item] := by simp [World.taken, World.chronicle]
        rw [forwarded, more, passed, Feed.Channel.bufferTake taken, List.append_assoc]
        rfl
      · rw [delivered, forwarded, cut]
        exact obtained
  | leave =>
      refine ⟨flow.bound, Feed.Channel.soundClose flow.sound, ?_, cutLater⟩
      intro held
      cases held
  | serve | elapse | act | log | count =>
      refine ⟨flow.bound, flow.sound, ?_, cutLater⟩
      intro held
      obtain ⟨listens, passed, obtained⟩ := flow.accounted held
      exact ⟨listens, passed, obtained⟩

end Flow

theorem Reachable.flow (reached : Reachable source remote capacity world)
    (present : world.worker = some worker) : Flow capacity worker world := by
  refine reached.invariant ?_ (fun present held step there => held.work present step there)
    (fun _ held moved => held.rest moved) present
  intro idle topic policy fresh _
  have nothing := World.chronicleSpawn topic policy capacity fresh
  refine ⟨rfl, Feed.Channel.soundOfCapacity capacity, fun _ => ⟨⟨rfl, rfl⟩, ?_, ?_⟩, .inl ?_⟩
  · simp only [World.forwarded, World.taken, nothing]
    rfl
  · simp only [World.delivered, World.forwarded, World.cut, nothing]
    rfl
  · simp only [World.cut, nothing]
    rfl

theorem forwardedProgress (item : Item) (progress : Feed.Progress) :
    (Happening.ofProgress item progress).filterMap Happening.forwarded? = progress.put item := by
  cases progress <;> rfl

theorem World.channelHandOver (channel : Feed.Channel Item) (number : Nat) (item : Item)
    (progress : Feed.Progress) :
    ({ world with channel }.handOver worker number item progress).channel = channel := by
  cases progress <;> rfl

/-- A step puts into the feed what it forwards, and nothing else. -/
theorem Flow.fills (flow : Flow capacity worker world)
    (step : WorkerStep source worker world added next) : next.channel.buffer.toList =
      world.channel.buffer.toList ++ added.filterMap Happening.forwarded? := by
  have sound := flow.sound
  cases step with
  | offer phase =>
      rw [phase] at sound
      rw [World.channelHandOver, forwardedProgress]
      exact (Feed.Channel.handedOffer sound _).buffer
  | poll phase =>
      rw [phase] at sound
      rw [World.channelHandOver, forwardedProgress]
      exact (Feed.Channel.handedPoll sound).buffer
  | leave => rw [flow.channelLeave.2.2.2, (itemsParting worker).2.1, List.append_nil]
  | _ => exact (List.append_nil _).symm

/-- Others only take the oldest items out of the feed. -/
theorem Outside.drains (moved : Outside remote world next) :
    next.channel.buffer.toList <:+ world.channel.buffer.toList := by
  cases moved with
  | take taken =>
      obtain ⟨channel, found, rfl⟩ := World.takeCases taken
      rw [Feed.Channel.bufferTake found]
      exact List.suffix_cons _ _
  | leave => exact List.nil_suffix
  | _ => exact List.suffix_rfl

/-- What was obtained and did not get into the feed is at most one item.
It waits for room in a full feed as soon as the worker cannot go on, or the signal cut it off. -/
inductive Pending (source : Source State Item) (worker : Worker Item)
    (world : World State Item) : List Item → Prop where
  | nothing : Pending source worker world []
  | inHand {item : Item} (inHand : worker.phase.inHand? = some item)
      (waits : world.step source = none → world.channel.free? = some 0 ∧
        ∃ number ticket, worker.phase = .blocked number item ticket) :
      Pending source worker world [item]
  | cutOff {item : Item} (cut : world.cut = [item]) (left : worker.phase.hasLeft = true)
      (signal : world.coordinator.signalArrives = true) : Pending source worker world [item]

theorem Pending.short {items : List Item} (pending : Pending source worker world items) :
    items.length ≤ 1 := by
  cases pending with
  | nothing => exact Nat.zero_le 1
  | inHand => exact Nat.le_refl 1
  | cutOff => exact Nat.le_refl 1

/-- A worker that cannot go on with an item in hand waits in line for a full feed. -/
theorem Flow.waitsForRoom {item : Item} (flow : Flow capacity worker world)
    (present : world.worker = some worker) (unordered : worker.cancelled = false)
    (inHand : worker.phase.inHand? = some item) (rests : world.step source = none) :
    world.channel.free? = some 0 ∧ ∃ number ticket, worker.phase = .blocked number item ticket := by
  simp only [World.step, present, unordered, Bool.false_and, Bool.false_eq_true, if_false] at rests
  cases phase : worker.phase with
  | handing number other =>
      simp only [World.proceed, phase] at rests
      split at rests <;> try split at rests
      all_goals contradiction
  | blocked number other ticket =>
      rw [phase] at inHand
      obtain rfl := Option.some.inj inHand
      have sound := flow.sound
      rw [phase] at sound
      refine ⟨?_, number, ticket, rfl⟩
      simp only [World.proceed, phase] at rests
      split at rests
      · contradiction
      · split at rests
        case h_1 later channel waits =>
          exact Feed.Channel.fullOfWaits sound (congrArg Prod.fst waits)
        case h_2 => contradiction
  | _ => simp [phase] at inHand

theorem Flow.pending (flow : Flow capacity worker world) (present : world.worker = some worker)
    (unordered : worker.cancelled = false)
    (bySignal : worker.phase.hasLeft = true → world.coordinator.signalArrives = true) :
    Pending source worker world (worker.phase.inHand?.toList ++ world.cut) := by
  rcases flow.cut with uncut | ⟨⟨item, cut⟩, left⟩
  · rw [uncut, List.append_nil]
    cases inHand : worker.phase.inHand? with
    | none => exact .nothing
    | some item => exact .inHand inHand (flow.waitsForRoom present unordered inHand)
  · rw [cut, (Phase.emptyOfLeft left).1]
    exact .cutOff cut left (bySignal left)

/-- Items that were obtained are received in order, without loss and without doubles.
The consumer falls behind by no more than the bound and one item, and after the end of the
worker it gets what the buffer holds and then learns that nothing more will come. -/
theorem obtainedInOrder (reached : Reachable source remote capacity world)
    (present : world.worker = some worker) (held : world.feedHeld = true) :
    (∃ pending, Pending source worker world pending ∧
      world.delivered = world.taken ++ world.channel.buffer.toList ++ pending) ∧
    (0 < capacity →
      world.delivered.length ≤ world.taken.length + (Feed.clamp capacity + 1)) ∧
    (worker.phase = .finished →
      (∀ more, world.receipts (world.channel.buffer.toList.length + more) =
        world.channel.buffer.toList.map .item ++ List.replicate more .ended) ∧
      ∀ final, Run source remote world final → final.feedHeld = true →
        final.delivered = world.delivered ∧
        final.taken ++ final.channel.buffer.toList =
          world.taken ++ world.channel.buffer.toList) := by
  have flow := reached.flow present
  have unordered := reached.unordered present
  obtain ⟨_, passed, obtained⟩ := flow.accounted held
  have pending : Pending source worker world (worker.phase.inHand?.toList ++ world.cut) :=
    flow.pending present unordered fun left => (reached.leftBySignal present left).2
  have whole : world.delivered = world.taken ++ world.channel.buffer.toList ++
      (worker.phase.inHand?.toList ++ world.cut) := by rw [obtained, passed]
  refine ⟨⟨_, pending, whole⟩, ?_, ?_⟩
  · intro bounded
    have bound : world.channel.capacity = some (Feed.clamp capacity) := by
      rw [flow.bound]
      simp [Feed.Channel.ofCapacity, Nat.ne_of_gt bounded]
    have fits := flow.sound.fits _ bound
    have one := pending.short
    rw [whole]
    simp only [List.length_append, Feed.Queue.lengthToList] at one ⊢
    omega
  · intro finished
    refine ⟨World.receiptsOfOver (by simp [World.mayDeliver, present, finished, Phase.isOver]), ?_⟩
    intro final run heldStill
    obtain ⟨there, items, taken⟩ := reached.afterEnd present finished run
    obtain ⟨⟨delivered, forwarded, _⟩, _⟩ := World.keptByTaking taken
    obtain ⟨_, passedLater, _⟩ := ((reached.run run).flow there).accounted heldStill
    exact ⟨delivered, by rw [← passedLater, ← passed, forwarded]⟩

/-- Two of three items are obtained, and the feed has room for one of them. -/
def crowded : World (Script Nat) Nat :=
  let idle : World (Script Nat) Nat :=
    { source := { plan := [{ verdict := .opened [7, 8, 9] none }] } }
  ((idle.spawn "heads" .standard 1).settle Script.source).trigger.settle Script.source

theorem crowdedReachable : Reachable Script.source Eq 1 crowded := by
  have attends : ∀ clock state, state = Script.source.attend clock (state : Script Nat) :=
    fun _ _ => rfl
  apply Reachable.run _ (Run.settle attends _)
  refine .trigger ?_ rfl
  exact .run (.start rfl .new "heads" .standard) (Run.settle attends _)

/-- The second item was cut off, and the account of the items says so. -/
theorem obtainedInOrderCrowded : ∃ worker, Pending Script.source worker crowded [8] ∧
    crowded.delivered = [] ++ [7] ++ [8] ∧
    crowded.receipts 2 = [.item 7, .ended] := by
  have present : crowded.worker = some _ := rfl
  have held : crowded.feedHeld = true := rfl
  obtain ⟨⟨pending, allowed, whole⟩, _, ends⟩ := obtainedInOrder crowdedReachable present held
  have exact : crowded.delivered = [] ++ [7] ++ [8] := rfl
  have same : pending = [8] := List.append_cancel_left (whole.symm.trans exact)
  exact ⟨_, same ▸ allowed, exact, (ends rfl).1 1⟩

end NodeBridge.Observer
