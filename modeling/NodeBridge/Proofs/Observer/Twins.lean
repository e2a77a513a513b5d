import NodeBridge.Proofs.Observer.Conduct
import NodeBridge.Proofs.Observer.Schedule

/-
This file runs a worker twice with consumers that behave differently.
A feed without a bound hides its consumer from the worker: until the signal both runs go on in
step, and after it one of them may be one step behind the other on the same way out.
-/

namespace NodeBridge.Observer

variable {State Item : Type}

variable {source : Source State Item} {topic : String}
  {world next other final : World State Item} {worker later : Worker Item}
  {added others : List (Happening Item)} {shut still : Bool}

/-- A worker that has ended rests. -/
theorem World.stepOfSilent (silent : world.mayDeliver = false) : world.step source = none := by
  cases present : world.worker with
  | none => simp [step, present]
  | some worker =>
      have isOver : worker.phase.isOver = true := by simpa [mayDeliver, present] using silent
      cases phase : worker.phase <;>
        simp [Phase.isOver, Phase.hasLeft, phase, step, proceed, present] at isOver ⊢

/-- Nobody but the worker decides whether it goes on, and the signal stays. -/
theorem World.undergoKeeps (source : Source State Item) {occurrence : Occurrence State}
    (unturned : occurrence ≠ .turn) (world : World State Item) :
    (world.undergo source occurrence).worker = world.worker ∧
      (world.coordinator.signalArrives = true →
        (world.undergo source occurrence).coordinator.signalArrives = true) := by
  rcases World.undergoAside source unturned world with same | moved
  · rw [same]
    exact ⟨rfl, id⟩
  · exact ⟨moved.workerSame, moved.signalStays⟩

/-- No turn takes time. -/
theorem World.clockTurn (present : world.worker = some worker)
    (unordered : worker.cancelled = false) : (world.undergo source .turn).clock = world.clock := by
  rw [undergo]
  cases stepped : world.step source with
  | none => rfl
  | some next =>
      obtain ⟨_, step⟩ := stepCases present unordered stepped
      exact step.clock

/-- The worker has not left its loop. -/
def World.inLoop (world : World State Item) : Bool :=
  match world.worker with
  | none => false
  | some worker => !worker.phase.hasLeft

/-- Whoever has ended is no longer in its loop. -/
theorem World.outOfSilent (silent : world.mayDeliver = false) : world.inLoop = false := by
  cases present : world.worker with
  | none => simp [inLoop, present]
  | some worker =>
      have isOver : worker.phase.isOver = true := by simpa [mayDeliver, present] using silent
      simp [inLoop, present, Phase.leftOfOver isOver]

/-- The first world never lost its consumer, and the second one is at the same point.
Both feeds have no bound, and the two workers differ only in what they know about their feeds. -/
structure Abreast (topic : String) (shut : Bool) (worker : Worker Item)
    (world other : World State Item) : Prop where
  present : world.worker = some worker
  presentToo : other.worker = some { worker with feedClosed := shut }
  clock : other.clock = world.clock
  coordinator : other.coordinator = world.coordinator
  source : other.source = world.source
  named : worker.topic = topic
  unordered : worker.cancelled = false
  unshut : worker.feedClosed = false
  unblocked : worker.phase.sender? = none
  told : worker.phase.hasLeft = true → world.coordinator.signalArrives = true
  isOpen : world.channel.isOpen = true
  unbounded : world.channel.capacity = none
  unboundedToo : other.channel.capacity = none
  matching : Matching topic world other []

/-- The first worker is one step ahead on its way out, and the second one has yet to do this. -/
inductive Lag (leaver worker : Worker Item) : List (Happening Item) → Prop where
  | looking {number : Nat} (phase : leaver.phase = .leaving (some number))
      (phaseToo : worker.phase = .watching number) : Lag leaver worker [.changed .terminating]
  | closing {number : Nat} (phase : leaver.phase = .ending)
      (phaseToo : worker.phase = .leaving (some number)) : Lag leaver worker [.closed number]
  | ending (phase : leaver.phase = .finished) (phaseToo : worker.phase = .ending) :
      Lag leaver worker [.ended]

/-- The second world comes one step behind the first one on the way out of their workers. -/
structure Behind (topic : String) (leaver worker : Worker Item) (missing : List (Happening Item))
    (world other : World State Item) : Prop where
  present : world.worker = some leaver
  presentToo : other.worker = some worker
  named : leaver.topic = topic
  namedToo : worker.topic = topic
  unordered : leaver.cancelled = false
  unorderedToo : worker.cancelled = false
  lag : Lag leaver worker missing
  signal : other.coordinator.signalArrives = true
  matching : Matching topic world other missing

/-- The second of two runs goes on beside the first one, which has no consumer.
They are abreast until they end, or the second one is behind on the way out. -/
inductive Twins (topic : String) (world other : World State Item) : Prop where
  | abreast {worker : Worker Item} {shut : Bool} (abreast : Abreast topic shut worker world other)
  | behind {leaver worker : Worker Item} {missing : List (Happening Item)}
      (behind : Behind topic leaver worker missing world other)
  | ended (silent : world.mayDeliver = false) (silentToo : other.mayDeliver = false)
      (matching : Matching topic world other [])

namespace Matching

variable {missing : List (Happening Item)} {occurrence : Occurrence State}

theorem undergoFirst (matching : Matching topic world other missing)
    (unturned : occurrence ≠ .turn) :
    Matching topic (world.undergo source occurrence) other missing := by
  rcases World.undergoAside source unturned world with same | moved
  · rw [same]
    exact matching
  · exact matching.asideFirst moved

theorem undergoSecond (matching : Matching topic world other missing)
    (unturned : occurrence ≠ .turn) :
    Matching topic world (other.undergo source occurrence) missing := by
  rcases World.undergoAside source unturned other with same | moved
  · rw [same]
    exact matching
  · exact matching.asideSecond moved

end Matching

namespace Abreast

/-- Both workers take the same step, up to their feeds. -/
theorem inStep (abreast : Abreast topic shut worker world other)
    (step : WorkerStep source worker world added next)
    (stepToo : WorkerStep source { worker with feedClosed := shut } other others final)
    (alike : apartFromFeed added = apartFromFeed others) (there : next.worker = some later)
    (thereToo : final.worker = some { later with feedClosed := still })
    (coordinator : final.coordinator = next.coordinator) (sources : final.source = next.source)
    (unshut : later.feedClosed = false) (unblocked : later.phase.sender? = none)
    (isOpen : next.channel.isOpen = true) (unbounded : next.channel.capacity = none)
    (unboundedToo : final.channel.capacity = none) :
    Abreast topic still later (world.undergo source .turn) (other.undergo source .turn) := by
  have told (left : later.phase.hasLeft = true) : next.coordinator.signalArrives = true := by
    refine step.signalStays ?_
    rcases step.leaves abreast.present there left with leaving | ⟨_, signal, _⟩
    · exact abreast.told leaving
    · exact signal
  obtain ⟨_, same, sameTopic, _, _, sameOrder⟩ := step.staffed abreast.present
  obtain rfl := Option.some.inj (there.symm.trans same)
  have annals := stepToo.annals
  have metrics := step.metrics
  have metricsToo := stepToo.metrics
  rw [abreast.clock] at annals
  rw [abreast.named] at metrics metricsToo
  have matching : Matching topic next final [] := abreast.matching.after step.annals annals metrics
    metricsToo (by simpa using alike) nofun
  rw [World.undergo, step.stepped abreast.present abreast.unordered, World.undergo,
    stepToo.stepped abreast.presentToo abreast.unordered]
  exact ⟨there, thereToo, stepToo.clock.trans (abreast.clock.trans step.clock.symm), coordinator,
    sources, sameTopic.trans abreast.named, sameOrder.trans abreast.unordered, unshut, unblocked,
    told, isOpen, unbounded, unboundedToo, matching⟩

/-- Both workers wait. -/
theorem rest (abreast : Abreast topic shut worker world other)
    (waits : world.step source = none) (waitsToo : other.step source = none) :
    Twins topic (world.undergo source .turn) (other.undergo source .turn) := by
  rw [World.undergo, waits, World.undergo, waitsToo]
  exact .abreast abreast

/-- Both workers obey the signal. -/
theorem leaves (abreast : Abreast topic shut worker world other) (heeds : worker.heeds = true)
    (heedsToo : Worker.heeds { worker with feedClosed := shut } = true)
    (signal : world.coordinator.signalArrives = true) :
    Twins topic (world.undergo source .turn) (other.undergo source .turn) := by
  have signalToo : other.coordinator.signalArrives = true := abreast.coordinator ▸ signal
  obtain ⟨_, coordinator, state, _, channel⟩ := World.leaveKeeps worker world
  obtain ⟨_, coordinatorToo, stateToo, _, channelToo⟩ :=
    World.leaveKeeps { worker with feedClosed := shut } other
  have unblocked : Phase.sender? _ = none := abreast.unblocked
  rw [World.channelCutOff, unblocked] at channel channelToo
  refine .abreast (abreast.inStep (.leave heeds signal) (.leave heedsToo signalToo) rfl rfl rfl
    ?_ ?_ abreast.unshut rfl ?_ ?_ ?_)
  · rw [coordinator, coordinatorToo, abreast.coordinator]
  · rw [state, stateToo, abreast.source]
  · exact channel ▸ abreast.isOpen
  · exact channel ▸ abreast.unbounded
  · exact channelToo ▸ abreast.unboundedToo

/-- Both workers close what they hold. -/
theorem closes {held : Option Nat} (abreast : Abreast topic shut worker world other)
    (phase : worker.phase = .leaving held) :
    Abreast topic shut { worker with phase := .ending } (world.undergo source .turn)
      (other.undergo source .turn) := by
  obtain ⟨clock, coordinator, state, channel, feedHeld, employed, history, events, metrics⟩ := other
  obtain ⟨rfl, rfl, rfl⟩ : clock = world.clock ∧ coordinator = world.coordinator ∧
    state = world.source := ⟨abreast.clock, abreast.coordinator, abreast.source⟩
  cases held with
  | none =>
      exact abreast.inStep (.spare phase) (.spare phase) rfl rfl rfl rfl rfl abreast.unshut rfl
        abreast.isOpen abreast.unbounded abreast.unboundedToo
  | some number =>
      exact abreast.inStep (.close phase) (.close phase) rfl rfl rfl rfl rfl abreast.unshut rfl
        abreast.isOpen abreast.unbounded abreast.unboundedToo

/-- The tokens of both workers end. -/
theorem finishes (abreast : Abreast topic shut worker world other)
    (phase : worker.phase = .ending) :
    Abreast topic shut { worker with phase := .finished } (world.undergo source .turn)
      (other.undergo source .turn) := by
  refine abreast.inStep (.finish phase) (.finish phase) rfl rfl rfl ?_ abreast.source
    abreast.unshut rfl abreast.isOpen abreast.unbounded abreast.unboundedToo
  exact congrArg (Shutdown.Coordinator.finish worker.token) abreast.coordinator

/-- Without the signal both workers get the same from their subscriptions. -/
theorem looks {number : Nat} (abreast : Abreast topic shut worker world other)
    (phase : worker.phase = .watching number)
    (quiet : world.coordinator.signalArrives = false) :
    Twins topic (world.undergo source .turn) (other.undergo source .turn) := by
  obtain ⟨clock, coordinator, state, channel, feedHeld, employed, history, events, metrics⟩ := other
  obtain ⟨rfl, rfl, rfl⟩ : clock = world.clock ∧ coordinator = world.coordinator ∧
    state = world.source := ⟨abreast.clock, abreast.coordinator, abreast.source⟩
  have ⟨present, presentToo, _, _, _, _, unordered, unshut, unblocked, _, isOpen, unbounded,
    unboundedToo, _⟩ := abreast
  have employs : employed = some { worker with feedClosed := shut } := presentToo
  cases ready : source.delivery? world.clock number world.source with
  | none =>
      refine abreast.rest ?_ ?_
      · simp [World.step, World.proceed, present, unordered, phase, quiet, ready]
      · simp [World.step, World.proceed, employs, unordered, phase, quiet, ready]
  | some delivery =>
      obtain ⟨item | event | error, state⟩ := delivery
      · exact .abreast (abreast.inStep (.deliver phase quiet ready) (.deliver phase quiet ready)
          rfl rfl rfl rfl rfl unshut rfl isOpen unbounded unboundedToo)
      · exact .abreast (abreast.inStep (.remark phase quiet ready) (.remark phase quiet ready)
          rfl present presentToo rfl rfl unshut unblocked isOpen unbounded unboundedToo)
      · exact .abreast (abreast.inStep (.fail phase quiet ready) (.fail phase quiet ready)
          rfl rfl rfl rfl rfl unshut rfl isOpen unbounded unboundedToo)

/-- Without the signal both workers get rid of the item in their hands. -/
theorem hands {number : Nat} {item : Item} (abreast : Abreast topic shut worker world other)
    (phase : worker.phase = .handing number item)
    (quiet : world.coordinator.signalArrives = false) :
    Twins topic (world.undergo source .turn) (other.undergo source .turn) := by
  have quietToo : other.coordinator.signalArrives = false := abreast.coordinator ▸ quiet
  have offer : WorkerStep source worker world _ _ := .offer phase abreast.unshut quiet
  rcases Feed.Channel.offerUnbounded abreast.unbounded item with ⟨_, accepted⟩ | ⟨closed, _⟩
  · rw [accepted] at offer
    cases shut with
    | true =>
        exact .abreast (abreast.inStep offer (.ignore phase rfl) rfl rfl rfl abreast.coordinator
          abreast.source abreast.unshut rfl abreast.isOpen abreast.unbounded abreast.unboundedToo)
    | false =>
        have offerToo : WorkerStep source { worker with feedClosed := false } other _ _ :=
          .offer phase rfl quietToo
        rcases Feed.Channel.offerUnbounded abreast.unboundedToo item with ⟨_, taken⟩ | ⟨_, refused⟩
        · rw [taken] at offerToo
          exact .abreast (abreast.inStep offer offerToo rfl rfl rfl abreast.coordinator
            abreast.source abreast.unshut rfl abreast.isOpen abreast.unbounded abreast.unboundedToo)
        · rw [refused] at offerToo
          exact .abreast (abreast.inStep offer offerToo rfl rfl rfl abreast.coordinator
            abreast.source abreast.unshut rfl abreast.isOpen abreast.unbounded abreast.unboundedToo)
  · rw [abreast.isOpen] at closed
    contradiction

/-- The first worker obeys the signal with an item in its hands, and the second one first drops
the item, because it knows that nobody wants it. -/
theorem fallsBehind {number : Nat} {item : Item} (abreast : Abreast topic true worker world other)
    (phase : worker.phase = .handing number item)
    (signal : world.coordinator.signalArrives = true) :
    Twins topic (world.undergo source .turn) (other.undergo source .turn) := by
  have heeds : worker.heeds = true := by simp [Worker.heeds, phase, abreast.unshut]
  have step : WorkerStep source worker world _ _ := .leave heeds signal
  have stepToo : WorkerStep source { worker with feedClosed := true } other _ _ :=
    .ignore phase rfl
  have annals := stepToo.annals
  have metrics := step.metrics
  have metricsToo := stepToo.metrics
  rw [abreast.clock] at annals
  rw [abreast.named] at metrics metricsToo
  have parting : worker.parting = [.cutOff item, .changed .terminating] := by
    simp [Worker.parting, phase]
  have same : apartFromFeed worker.parting =
      apartFromFeed [.ignored item] ++ [.changed .terminating] := by
    rw [parting]
    rfl
  have matching := abreast.matching.after step.annals annals metrics metricsToo same
    (by simp [Happening.ofExit])
  rw [World.undergo, step.stepped abreast.present abreast.unordered, World.undergo,
    stepToo.stepped abreast.presentToo abreast.unordered]
  have held : worker.phase.held? = some number := by simp [phase, Phase.held?]
  exact .behind ⟨rfl, rfl, abreast.named, abreast.named, abreast.unordered, abreast.unordered,
    .looking (congrArg Phase.leaving held) rfl, abreast.coordinator ▸ signal, matching⟩

theorem turn (abreast : Abreast topic shut worker world other) :
    Twins topic (world.undergo source .turn) (other.undergo source .turn) := by
  obtain ⟨clock, coordinator, state, channel, feedHeld, employed, history, events, metrics⟩ := other
  obtain ⟨rfl, rfl, rfl⟩ : clock = world.clock ∧ coordinator = world.coordinator ∧
    state = world.source := ⟨abreast.clock, abreast.coordinator, abreast.source⟩
  have ⟨present, presentToo, _, _, _, _, unordered, unshut, unblocked, _, isOpen, unbounded,
    unboundedToo, _⟩ := abreast
  have employs : employed = some { worker with feedClosed := shut } := presentToo
  cases phase : worker.phase with
  | created =>
      exact .abreast (abreast.inStep (.start phase) (.start phase) rfl rfl rfl rfl rfl unshut rfl
        isOpen unbounded unboundedToo)
  | opening =>
      cases completed : source.completion? world.clock world.source with
      | none =>
          refine abreast.rest ?_ ?_
          · simp [World.step, World.proceed, present, unordered, phase, completed]
          · simp [World.step, World.proceed, employs, unordered, phase, completed]
      | some outcome =>
          obtain ⟨error | topic, state⟩ := outcome
          · exact .abreast (abreast.inStep (.refuse phase completed) (.refuse phase completed)
              rfl rfl rfl rfl rfl unshut rfl isOpen unbounded unboundedToo)
          · exact .abreast (abreast.inStep (.subscribe phase completed) (.subscribe phase completed)
              rfl rfl rfl rfl rfl unshut rfl isOpen unbounded unboundedToo)
  | pausing due =>
      cases signal : world.coordinator.signalArrives with
      | true =>
          exact abreast.leaves (by simp [Worker.heeds, phase]) (by simp [Worker.heeds, phase])
            signal
      | false =>
          by_cases expired : due ≤ world.clock
          · exact .abreast (abreast.inStep (.retry phase signal expired)
              (.retry phase signal expired) rfl rfl rfl rfl rfl unshut rfl isOpen unbounded
              unboundedToo)
          · refine abreast.rest ?_ ?_
            · simp [World.step, World.proceed, present, unordered, phase, signal, expired]
            · simp [World.step, World.proceed, employs, unordered, phase, signal, expired]
  | watching number =>
      cases signal : world.coordinator.signalArrives with
      | true =>
          exact abreast.leaves (by simp [Worker.heeds, phase]) (by simp [Worker.heeds, phase])
            signal
      | false => exact abreast.looks phase signal
  | handing number item =>
      cases signal : world.coordinator.signalArrives with
      | false => exact abreast.hands phase signal
      | true =>
          cases shut with
          | true => exact abreast.fallsBehind phase signal
          | false =>
              have heeds : worker.heeds = true := by simp [Worker.heeds, phase, unshut]
              exact abreast.leaves heeds (by simp [Worker.heeds, phase]) signal
  | blocked number item ticket =>
      rw [phase] at unblocked
      contradiction
  | leaving held => exact .abreast (abreast.closes phase)
  | ending => exact .abreast (abreast.finishes phase)
  | finished | stopped =>
      refine abreast.rest ?_ ?_
      · simp [World.step, World.proceed, present, unordered, phase]
      · simp [World.step, World.proceed, employs, unordered, phase]

/-- What others do besides the consumer changes nothing between the two worlds. -/
theorem aside {occurrence : Occurrence State} (abreast : Abreast topic shut worker world other)
    (unturned : occurrence ≠ .turn) (shared : occurrence.ofConsumer = false) :
    Abreast topic shut worker (world.undergo source occurrence)
      (other.undergo source occurrence) := by
  have matching : Matching topic (world.undergo source occurrence)
      (other.undergo source occurrence) [] :=
    (abreast.matching.undergoFirst unturned).undergoSecond unturned
  have clock := abreast.clock
  have coordinator := abreast.coordinator
  cases occurrence with
  | turn | take | leave => contradiction
  | serve state => exact { abreast with source := rfl, matching }
  | elapse time => exact { abreast with clock := congrArg (max · time) clock, matching }
  | log | count => exact { abreast with matching }
  | act action =>
      have same : other.permits action = world.permits action := by
        rw [World.permits, World.permits, coordinator, abreast.present, abreast.presentToo]
        rfl
      rw [World.undergo, World.undergo, same] at matching ⊢
      split
      case isTrue permitted =>
        rw [if_pos permitted, if_pos permitted] at matching
        have stays := (World.undergoKeeps source unturned world).2
        rw [World.undergo, if_pos permitted] at stays
        refine { abreast with coordinator := ?_, told := fun left => stays (abreast.told left),
                              matching }
        show (other.coordinator.perform other.clock action).1 =
          (world.coordinator.perform world.clock action).1
        rw [clock, coordinator]
      case isFalse => exact abreast

/-- What the consumer does stays between it and the feed. -/
theorem consumed {occurrence : Occurrence State} (abreast : Abreast topic shut worker world other)
    (consumes : occurrence.ofConsumer = true) :
    Abreast topic shut worker world (other.undergo source occurrence) := by
  have unturned : occurrence ≠ .turn := by
    rintro rfl
    contradiction
  have matching : Matching topic world (other.undergo source occurrence) [] :=
    abreast.matching.undergoSecond unturned
  cases occurrence with
  | take =>
      rw [World.undergo] at matching ⊢
      cases taken : other.take? with
      | none => exact abreast
      | some pair =>
          obtain ⟨item, next⟩ := pair
          rw [taken] at matching
          obtain ⟨channel, found, rfl⟩ := World.takeCases taken
          have capacity := Feed.Channel.capacityTake found
          exact { abreast with unboundedToo := capacity.trans abreast.unboundedToo, matching }
  | leave => exact { abreast with unboundedToo := abreast.unboundedToo, matching }
  | _ => contradiction

end Abreast

namespace Behind

variable {leaver leaverLater : Worker Item} {missing rest : List (Happening Item)}
  {occurrence : Occurrence State}

/-- Both take a step of their way out, and the second one stays behind. -/
theorem follow (behind : Behind topic leaver worker missing world other)
    (step : WorkerStep source leaver world added next)
    (stepToo : WorkerStep source worker other others final)
    (there : next.worker = some leaverLater) (thereToo : final.worker = some later)
    (exits : ∀ happening ∈ added, happening.ofExit = true)
    (same : missing ++ added = others ++ rest) (lag : Lag leaverLater later rest) :
    Behind topic leaverLater later rest (world.undergo source .turn)
      (other.undergo source .turn) := by
  obtain ⟨_, thereStill, topic, _, _, order⟩ := step.staffed behind.present
  obtain rfl := Option.some.inj (there.symm.trans thereStill)
  obtain ⟨_, thereStill, topicToo, _, _, orderToo⟩ := stepToo.staffed behind.presentToo
  obtain rfl := Option.some.inj (thereToo.symm.trans thereStill)
  have metrics := step.metrics
  have metricsToo := stepToo.metrics
  rw [behind.named] at metrics
  rw [behind.namedToo] at metricsToo
  rw [World.undergo, step.stepped behind.present behind.unordered, World.undergo,
    stepToo.stepped behind.presentToo behind.unorderedToo]
  exact ⟨there, thereToo, topic.trans behind.named, topicToo.trans behind.namedToo,
    order.trans behind.unordered, orderToo.trans behind.unorderedToo, lag,
    stepToo.signalStays behind.signal,
    behind.matching.advance step.annals stepToo.annals metrics metricsToo exits same⟩

/-- The second worker announces its end while the first one closes. -/
theorem announces {number : Nat}
    (behind : Behind topic leaver worker [.changed .terminating] world other)
    (phase : leaver.phase = .leaving (some number)) (phaseToo : worker.phase = .watching number) :
    Behind topic { leaver with phase := .ending }
      { worker with status := .terminating, phase := .leaving (some number) } [.closed number]
      (world.undergo source .turn) (other.undergo source .turn) := by
  have heeds : worker.heeds = true := by simp [Worker.heeds, phaseToo]
  refine behind.follow (.close phase) (.leave heeds behind.signal) rfl ?_
    (by simp [Happening.ofExit]) (by simp [Worker.parting, phaseToo]) (.closing rfl rfl)
  simp [World.leave, World.setWorker, phaseToo, Phase.held?]

/-- The second worker closes while the token of the first one ends. -/
theorem closes {number : Nat} (behind : Behind topic leaver worker [.closed number] world other)
    (phase : leaver.phase = .ending) (phaseToo : worker.phase = .leaving (some number)) :
    Behind topic { leaver with phase := .finished } { worker with phase := .ending } [.ended]
      (world.undergo source .turn) (other.undergo source .turn) :=
  behind.follow (.finish phase) (.close phaseToo) rfl rfl (by simp [Happening.ofExit]) rfl
    (.ending rfl rfl)

/-- The token of the second worker ends after that of the first one. -/
theorem catchesUp (behind : Behind topic leaver worker [.ended] world other)
    (phase : leaver.phase = .finished) (phaseToo : worker.phase = .ending) :
    world.undergo source .turn = world ∧
      other.undergo source .turn = other.finish worker ∧
      Matching topic world (other.finish worker) [] := by
  have step : WorkerStep source worker other _ _ := .finish phaseToo
  have metrics := step.metrics
  rw [behind.namedToo] at metrics
  refine ⟨?_, ?_, ?_⟩
  · rw [World.undergo, World.stepOfFinished behind.present behind.unordered phase]
    rfl
  · rw [World.undergo, step.stepped behind.presentToo behind.unorderedToo]
    rfl
  · have still : world.annals =
        world.annals ++ ([] : List (Happening Item)).map (Prod.mk world.clock) :=
      (List.append_nil _).symm
    exact behind.matching.advance still step.annals rfl metrics (List.forall_mem_nil _) rfl

theorem turn (behind : Behind topic leaver worker missing world other) :
    Twins topic (world.undergo source .turn) (other.undergo source .turn) := by
  have lag := behind.lag
  cases lag with
  | looking phase phaseToo => exact .behind (behind.announces phase phaseToo)
  | closing phase phaseToo => exact .behind (behind.closes phase phaseToo)
  | ending phase phaseToo =>
      obtain ⟨rests, ends, matching⟩ := behind.catchesUp phase phaseToo
      rw [rests, ends]
      exact .ended (by simp [World.mayDeliver, behind.present, phase, Phase.isOver]) rfl matching

theorem aside (behind : Behind topic leaver worker missing world other)
    (unturned : occurrence ≠ .turn) :
    Behind topic leaver worker missing (world.undergo source occurrence)
      (other.undergo source occurrence) := by
  obtain ⟨same, _⟩ := World.undergoKeeps source unturned world
  obtain ⟨sameToo, stays⟩ := World.undergoKeeps source unturned other
  exact { behind with
    present := same.trans behind.present
    presentToo := sameToo.trans behind.presentToo
    signal := stays behind.signal
    matching := (behind.matching.undergoFirst unturned).undergoSecond unturned }

theorem consumed (behind : Behind topic leaver worker missing world other)
    (unturned : occurrence ≠ .turn) :
    Behind topic leaver worker missing world (other.undergo source occurrence) := by
  obtain ⟨same, stays⟩ := World.undergoKeeps source unturned other
  exact { behind with
    presentToo := same.trans behind.presentToo
    signal := stays behind.signal
    matching := behind.matching.undergoSecond unturned }

end Behind

namespace Twins

variable {occurrence : Occurrence State}

/-- Two workers that start together are abreast. -/
theorem start (idle : World State Item) (topic : String) (policy : RetryPolicy) :
    Twins topic (idle.spawn topic policy 0) (idle.spawn topic policy 0) := by
  have matching : Matching topic (idle.spawn topic policy 0) (idle.spawn topic policy 0) [] :=
    ⟨rfl, rfl, (List.append_nil _).symm, fun _ _ => rfl, nofun⟩
  exact .abreast ⟨rfl, rfl, rfl, rfl, rfl, rfl, rfl, rfl, rfl, nofun, rfl, rfl, rfl, matching⟩

theorem turn (twins : Twins topic world other) :
    Twins topic (world.undergo source .turn) (other.undergo source .turn) := by
  cases twins with
  | abreast abreast => exact abreast.turn
  | behind behind => exact behind.turn
  | ended silent silentToo matching =>
      rw [World.undergo, World.stepOfSilent silent, World.undergo, World.stepOfSilent silentToo]
      exact .ended silent silentToo matching

theorem aside (twins : Twins topic world other) (unturned : occurrence ≠ .turn)
    (shared : occurrence.ofConsumer = false) :
    Twins topic (world.undergo source occurrence) (other.undergo source occurrence) := by
  cases twins with
  | abreast abreast => exact .abreast (abreast.aside unturned shared)
  | behind behind => exact .behind (behind.aside unturned)
  | ended silent silentToo matching =>
      obtain ⟨same, _⟩ := World.undergoKeeps source unturned world
      obtain ⟨sameToo, _⟩ := World.undergoKeeps source unturned other
      refine .ended ?_ ?_ ((matching.undergoFirst unturned).undergoSecond unturned)
      · rw [World.mayDeliver, same]
        exact silent
      · rw [World.mayDeliver, sameToo]
        exact silentToo

theorem consumed (twins : Twins topic world other) (consumes : occurrence.ofConsumer = true) :
    Twins topic world (other.undergo source occurrence) := by
  have unturned : occurrence ≠ .turn := by
    rintro rfl
    contradiction
  cases twins with
  | abreast abreast => exact .abreast (abreast.consumed consumes)
  | behind behind => exact .behind (behind.consumed unturned)
  | ended silent silentToo matching =>
      obtain ⟨same, _⟩ := World.undergoKeeps source unturned other
      refine .ended silent ?_ (matching.undergoSecond unturned)
      rw [World.mayDeliver, same]
      exact silentToo

/-- A schedule goes on beside the same schedule without its consumer. -/
theorem live (source : Source State Item) (twins : Twins topic world other)
    (schedule : List (Occurrence State)) :
    Twins topic (world.live source (unattended schedule)) (other.live source schedule) := by
  induction schedule generalizing world other with
  | nil => exact twins
  | cons occurrence rest inductionHypothesis =>
      cases consumes : occurrence.ofConsumer with
      | true =>
          rw [unattended, List.filter_cons_of_neg (by simp [consumes])]
          exact inductionHypothesis (twins.consumed consumes)
      | false =>
          rw [unattended, List.filter_cons_of_pos (by simp [consumes])]
          by_cases turn : occurrence = .turn
          · subst turn
            exact inductionHypothesis twins.turn
          · exact inductionHypothesis (twins.aside turn consumes)

/-- What the second one lacks is at most one step of its way out, and nothing after its end. -/
theorem gap (twins : Twins topic world other) :
    ∃ missing, Matching topic world other missing ∧
      (other.inLoop = true → missing.length = (!world.inLoop).toNat) ∧
      (other.mayDeliver = false → missing = []) := by
  cases twins with
  | abreast abreast =>
      refine ⟨[], abreast.matching, fun inLoop => ?_, fun _ => rfl⟩
      have same : other.inLoop = world.inLoop := by
        rw [World.inLoop, abreast.presentToo, World.inLoop, abreast.present]
      rw [← same, inLoop]
      rfl
  | @behind leaver worker missing behind =>
      have lag := behind.lag
      refine ⟨missing, behind.matching, fun _ => ?_, fun silent => ?_⟩
      · cases lag with
        | looking phase | closing phase | ending phase =>
            simp [World.inLoop, behind.present, phase, Phase.hasLeft, Phase.isOver]
      · cases lag with
        | looking _ phaseToo | closing _ phaseToo | ending _ phaseToo =>
            simp [World.mayDeliver, behind.presentToo, phaseToo, Phase.isOver] at silent
  | ended _ silentToo matching =>
      refine ⟨[], matching, fun inLoop => ?_, fun _ => rfl⟩
      rw [World.outOfSilent silentToo] at inLoop
      contradiction

/-- The second one is never ahead, and it has heard the signal if the first one has left. -/
theorem ahead (twins : Twins topic world other) (left : other.inLoop = false) :
    world.inLoop = false := by
  cases twins with
  | abreast abreast =>
      rw [World.inLoop, abreast.presentToo] at left
      rw [World.inLoop, abreast.present]
      exact left
  | behind behind =>
      have lag := behind.lag
      cases lag with
      | looking phase | closing phase | ending phase =>
          simp [World.inLoop, behind.present, phase, Phase.hasLeft, Phase.isOver]
  | ended silent => exact World.outOfSilent silent

theorem heard (twins : Twins topic world other) (left : world.inLoop = false)
    (going : other.mayDeliver = true) : other.coordinator.signalArrives = true := by
  cases twins with
  | abreast abreast =>
      rw [World.inLoop, abreast.present] at left
      rw [abreast.coordinator]
      exact abreast.told (by simpa using left)
  | behind behind => exact behind.signal
  | ended _ silentToo =>
      rw [silentToo] at going
      contradiction

end Twins

end NodeBridge.Observer
