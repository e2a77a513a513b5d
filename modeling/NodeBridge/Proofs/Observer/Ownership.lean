import NodeBridge.Observer.Script
import NodeBridge.Proofs.Observer.Calls

/-
This file follows every subscription from its opening to its end.
A worker holds at most one subscription, asks for another one only without one, and each one
either fails or is closed once on the way out of the worker.
-/

namespace NodeBridge.Observer

variable {State Item : Type}

/-- An opened subscription is held until it breaks or is closed. -/
def Happening.own (held : List Nat) : Happening Item → List Nat
  | .established number _ => held ++ [number]
  | .broken number _ => held.erase number
  | .closed number => held.erase number
  | _ => held

/-- These subscriptions are held after all of this has happened. -/
def heldAfter (past : List (Happening Item)) : List Nat := past.foldl Happening.own []

/-- Only the one subscription that is held is listened to, breaks or is closed, and it is
closed only after the end was announced. -/
def Permitted (past : List (Happening Item)) : Happening Item → Prop
  | .attempted => heldAfter past = []
  | .established number _ =>
      heldAfter past = [] ∧ number ∉ past.filterMap Happening.established?
  | .delivered number _ => heldAfter past = [number]
  | .broken number _ => heldAfter past = [number]
  | .closed number => heldAfter past = [number] ∧ .changed .terminating ∈ past
  | _ => True

/-- Everything was permitted when it happened. -/
def Orderly (chronicle : List (Happening Item)) : Prop :=
  ∀ past happening future, chronicle = past ++ happening :: future → Permitted past happening

/-- All of this is permitted one after the other. -/
def Follows (past : List (Happening Item)) : List (Happening Item) → Prop
  | [] => True
  | happening :: rest => Permitted past happening ∧ Follows (past ++ [happening]) rest

/-- To a worker in this phase the two sources are the same.
While it holds a subscription it does not ask for another, and it listens to the one that it holds
only before the signal. On its way out it only closes what it still holds. -/
structure Alike (phase : Phase Item) (signal : Bool) (source other : Source State Item) :
    Prop where
  beginOpen : phase.held? = none → phase.hasLeft = false → other.beginOpen = source.beginOpen
  completion : phase.held? = none → phase.hasLeft = false → other.completion? = source.completion?
  delivery : ∀ now number, phase.held? = some number → phase.hasLeft = false → signal = false →
    other.delivery? now number = source.delivery? now number
  abandon : phase.hasLeft = false → signal = false → other.abandon = source.abandon
  close : ∀ now number, phase = .leaving (some number) →
    other.close now number = source.close now number

section Order

variable {past added : List (Happening Item)} {happening : Happening Item}

theorem heldAfterAppend (past added : List (Happening Item)) :
    heldAfter (past ++ added) = added.foldl Happening.own (heldAfter past) :=
  List.foldl_append

theorem orderlyNil : Orderly ([] : List (Happening Item)) := Throughout.nil

theorem Orderly.snoc (orderly : Orderly past) (permitted : Permitted past happening) :
    Orderly (past ++ [happening]) :=
  Throughout.snoc orderly permitted

theorem Orderly.append (orderly : Orderly past) (follows : Follows past added) :
    Orderly (past ++ added) := by
  induction added generalizing past with
  | nil => simpa using orderly
  | cons happening rest inductionHypothesis =>
      obtain ⟨permitted, follows⟩ := follows
      have longer := inductionHypothesis (orderly.snoc permitted) follows
      simpa using longer

/-- The consumer does not need a permission. -/
theorem followsTaking (past : List (Happening Item)) (items : List Item) :
    Follows past (items.map .taken) := by
  induction items generalizing past with
  | nil => trivial
  | cons item rest inductionHypothesis => exact ⟨trivial, inductionHypothesis _⟩

theorem heldAfterTaking (past : List (Happening Item)) (items : List Item) :
    heldAfter (past ++ items.map .taken) = heldAfter past := by
  rw [heldAfterAppend, List.foldl_map]
  induction items with
  | nil => rfl
  | cons item rest inductionHypothesis => exact inductionHypothesis

end Order

/-- The chronicle agrees with what the worker holds. -/
structure Owned (worker : Worker Item) (world : World State Item) : Prop where
  orderly : Orderly world.chronicle
  held : heldAfter world.chronicle = worker.phase.held?.toList
  opened : world.opened = List.range worker.opened
  ended : world.failed ++ world.closed ++ worker.phase.held?.toList = world.opened
  unclosed : worker.phase.hasClosed = false → world.closed = []
  announced : worker.phase.hasLeft = true →
    worker.status = .terminating ∧ .changed .terminating ∈ world.chronicle

variable {source other : Source State Item} {remote : State → State → Prop} {capacity : Nat}
  {world next : World State Item} {worker later : Worker Item} {added : List (Happening Item)}

namespace Owned

/-- A step keeps the order if what it does is permitted and leaves the worker with the
subscription that the chronicle says. -/
theorem after (owned : Owned worker world)
    (chronicle : next.chronicle = world.chronicle ++ added)
    (follows : Follows world.chronicle added)
    (held : added.foldl Happening.own worker.phase.held?.toList = later.phase.held?.toList)
    (opened : List.range worker.opened ++ added.filterMap Happening.established? =
      List.range later.opened)
    (ended : added.filterMap Happening.broken? ++
        (world.closed ++ added.filterMap Happening.closed? ++ later.phase.held?.toList) =
      world.closed ++ worker.phase.held?.toList ++ added.filterMap Happening.established?)
    (unclosed : later.phase.hasClosed = false →
      world.closed ++ added.filterMap Happening.closed? = [])
    (announced : later.phase.hasLeft = true →
      later.status = .terminating ∧ .changed .terminating ∈ world.chronicle ++ added) :
    Owned later next := by
  obtain ⟨openedNext, failedNext, closedNext⟩ := World.handlesAdded chronicle
  refine ⟨?_, ?_, ?_, ?_, ?_, chronicle ▸ announced⟩
  · rw [chronicle]
    exact owned.orderly.append follows
  · rw [chronicle, heldAfterAppend, owned.held, held]
  · rw [openedNext, owned.opened, opened]
  · simp only [openedNext, failedNext, closedNext, ← owned.ended, List.append_assoc] at ended ⊢
    rw [ended]
  · rw [closedNext]
    exact unclosed

/-- As long as the worker stays in its loop nothing is closed. -/
theorem stay (owned : Owned worker world) (staying : worker.phase.hasLeft = false)
    (stayingToo : later.phase.hasLeft = false)
    (chronicle : next.chronicle = world.chronicle ++ added)
    (follows : Follows world.chronicle added)
    (held : added.foldl Happening.own worker.phase.held?.toList = later.phase.held?.toList)
    (opened : List.range worker.opened ++ added.filterMap Happening.established? =
      List.range later.opened)
    (closed : added.filterMap Happening.closed? = [])
    (ended : added.filterMap Happening.broken? ++ later.phase.held?.toList =
      worker.phase.held?.toList ++ added.filterMap Happening.established?) :
    Owned later next := by
  have unclosed := owned.unclosed (Phase.unclosedOfStayed staying)
  refine owned.after chronicle follows held opened ?_ ?_ ?_
  · simpa [unclosed, closed] using ended
  · intro _
    rw [unclosed, closed, List.append_nil]
  · intro left
    rw [stayingToo] at left
    contradiction

/-- Handing an item on leaves the subscription with the worker. -/
theorem handOver {number : Nat} {item : Item} {progress : Feed.Progress}
    {channel : Feed.Channel Item} (owned : Owned worker world)
    (holds : worker.phase.held? = some number) (staying : worker.phase.hasLeft = false)
    (there : ({ world with channel }.handOver worker number item progress).worker = some later) :
    Owned later ({ world with channel }.handOver worker number item progress) := by
  have chronicle : ({ world with channel }.handOver worker number item progress).chronicle =
      world.chronicle ++ Happening.ofProgress item progress :=
    World.chronicleHandOver number item progress
  cases progress with
  | accepted | closed =>
      obtain rfl := Option.some.inj there
      exact owned.stay staying rfl chronicle ⟨trivial, trivial⟩ (by rw [holds]; rfl)
        (List.append_nil _) rfl (by rw [holds]; rfl)
  | waits ticket =>
      obtain rfl := Option.some.inj there
      exact owned.stay staying rfl chronicle trivial (by rw [holds]; rfl)
        (List.append_nil _) rfl (by rw [holds]; rfl)

/-- Whoever leaves its loop announces it and goes on holding what it held. -/
theorem leave (owned : Owned worker world) (staying : worker.phase.hasLeft = false) :
    Owned { worker with status := .terminating, phase := .leaving worker.phase.held? }
      (world.leave worker) := by
  obtain ⟨noneOpened, noneFailed, noneClosed⟩ := handlesParting worker
  have unclosed := owned.unclosed (Phase.unclosedOfStayed staying)
  have follows : Follows world.chronicle worker.parting ∧
      worker.parting.foldl Happening.own worker.phase.held?.toList =
        worker.phase.held?.toList := by
    cases phase : worker.phase <;>
      simp [Worker.parting, phase, Phase.held?, Follows, Permitted, Happening.own]
  refine owned.after (World.chronicleLeave worker world) follows.1 follows.2 ?_ ?_ ?_ ?_
  · rw [noneOpened, List.append_nil]
  · rw [noneFailed, noneClosed, noneOpened]
    simp [Phase.held?]
  · intro _
    rw [unclosed, noneClosed, List.append_nil]
  · intro _
    exact ⟨rfl, by simp [Worker.parting]⟩

/-- What is still held on the way out is closed, and the end was announced before. -/
theorem close {number : Nat} (owned : Owned worker world)
    (phase : worker.phase = .leaving (some number)) :
    Owned { worker with phase := .ending } (world.closeHeld source (some number) worker) := by
  have held := owned.held
  obtain ⟨status, announced⟩ := owned.announced (by rw [phase]; rfl)
  have chronicle : (world.closeHeld source (some number) worker).chronicle =
      world.chronicle ++ [.closed number] := World.chronicleCloseHeld _ _ _ _
  rw [phase] at held
  refine owned.after chronicle ⟨⟨held, announced⟩, trivial⟩ ?_ (List.append_nil _) ?_ nofun ?_
  · simp [phase, Phase.held?, Happening.own]
  · simp [phase, Phase.held?, List.filterMap_cons]
  · exact fun _ => ⟨status, List.mem_append_left _ announced⟩

/-- Without a subscription nothing changes on the way out. -/
theorem wayOut (owned : Owned worker world) (left : worker.phase.hasLeft = true)
    (chronicle : next.chronicle = world.chronicle ++ added)
    (follows : Follows world.chronicle added)
    (own : added.foldl Happening.own worker.phase.held?.toList = worker.phase.held?.toList)
    (silent : added.filterMap Happening.established? = [] ∧
      added.filterMap Happening.broken? = [] ∧ added.filterMap Happening.closed? = [])
    (held : later.phase.held? = worker.phase.held?) (opened : later.opened = worker.opened)
    (closed : later.phase.hasClosed = true) (status : later.status = worker.status) :
    Owned later next := by
  obtain ⟨terminating, announced⟩ := owned.announced left
  refine owned.after chronicle follows (held ▸ own) ?_ ?_ ?_ ?_
  · rw [silent.1, List.append_nil, opened]
  · rw [silent.1, silent.2.1, silent.2.2, held]
    simp
  · intro unclosed
    rw [closed] at unclosed
    contradiction
  · exact fun _ => ⟨status.trans terminating, List.mem_append_left _ announced⟩

theorem work (present : world.worker = some worker) (owned : Owned worker world)
    (step : WorkerStep source worker world added next) (there : next.worker = some later) :
    Owned later next := by
  have chronicle := step.chronicle
  have held := owned.held
  cases step with
  | start phase =>
      obtain rfl := Option.some.inj there
      rw [phase] at held
      have unowned : heldAfter (world.chronicle ++ [.started]) = [] :=
        (heldAfterAppend _ _).trans held
      exact owned.stay (by rw [phase]; rfl) rfl chronicle ⟨trivial, unowned, trivial⟩
        (by rw [phase]; rfl) (List.append_nil _) rfl (by rw [phase]; rfl)
  | retry phase =>
      obtain rfl := Option.some.inj there
      rw [phase] at held
      exact owned.stay (by rw [phase]; rfl) rfl chronicle ⟨held, trivial⟩
        (by rw [phase]; rfl) (List.append_nil _) rfl (by rw [phase]; rfl)
  | subscribe phase =>
      obtain rfl := Option.some.inj there
      rw [phase] at held
      have fresh : worker.opened ∉ world.opened := by
        rw [owned.opened]
        exact List.not_mem_range_self
      exact owned.stay (by rw [phase]; rfl) rfl chronicle ⟨⟨held, fresh⟩, trivial, trivial⟩
        (by rw [phase]; rfl) List.range_succ.symm rfl (by rw [phase]; rfl)
  | refuse phase =>
      obtain rfl := Option.some.inj there
      exact owned.stay (by rw [phase]; rfl) rfl chronicle ⟨trivial, trivial, trivial⟩
        (by rw [phase]; rfl) (List.append_nil _) rfl (by rw [phase]; rfl)
  | remark phase =>
      obtain rfl := Option.some.inj (present.symm.trans there)
      exact owned.stay (by rw [phase]; rfl) (by rw [phase]; rfl) chronicle trivial rfl
        (List.append_nil _) rfl (List.append_nil _).symm
  | fail phase =>
      obtain rfl := Option.some.inj there
      rw [phase] at held
      exact owned.stay (by rw [phase]; rfl) rfl chronicle ⟨held, trivial, trivial, trivial⟩
        (by rw [phase]; simp [Phase.held?, Happening.own]) (List.append_nil _) rfl
        (by rw [phase]; rfl)
  | deliver phase =>
      obtain rfl := Option.some.inj there
      rw [phase] at held
      exact owned.stay (by rw [phase]; rfl) rfl chronicle ⟨held, trivial⟩
        (by rw [phase]; rfl) (List.append_nil _) rfl (by rw [phase]; rfl)
  | ignore phase =>
      obtain rfl := Option.some.inj there
      exact owned.stay (by rw [phase]; rfl) rfl chronicle ⟨trivial, trivial⟩
        (by rw [phase]; rfl) (List.append_nil _) rfl (by rw [phase]; rfl)
  | offer phase => exact owned.handOver (by rw [phase]; rfl) (by rw [phase]; rfl) there
  | poll phase => exact owned.handOver (by rw [phase]; rfl) (by rw [phase]; rfl) there
  | leave heeds =>
      obtain rfl := Option.some.inj there
      exact owned.leave (Worker.stayedOfHeeds heeds)
  | close phase =>
      obtain rfl := Option.some.inj there
      exact owned.close phase
  | spare phase =>
      obtain rfl := Option.some.inj there
      exact owned.wayOut (by rw [phase]; rfl) chronicle trivial rfl ⟨rfl, rfl, rfl⟩
        (by rw [phase]; rfl) rfl rfl rfl
  | finish phase =>
      obtain rfl := Option.some.inj there
      exact owned.wayOut (by rw [phase]; rfl) chronicle ⟨trivial, trivial⟩ rfl ⟨rfl, rfl, rfl⟩
        (by rw [phase]; rfl) rfl rfl rfl

/-- Others have no subscription of the worker in their hands. -/
theorem rest (owned : Owned worker world) (moved : Outside remote world next) :
    Owned worker next := by
  obtain ⟨items, chronicle⟩ := moved.chronicleAdds
  obtain ⟨_, opened, failed, closed⟩ := World.keptByTaking chronicle
  refine ⟨?_, ?_, opened.trans owned.opened, ?_, ?_, ?_⟩
  · rw [chronicle]
    exact owned.orderly.append (followsTaking _ items)
  · rw [chronicle, heldAfterTaking]
    exact owned.held
  · rw [opened, failed, closed]
    exact owned.ended
  · rw [closed]
    exact owned.unclosed
  · rw [chronicle]
    exact fun left => ⟨(owned.announced left).1, List.mem_append_left _ (owned.announced left).2⟩

end Owned

theorem Reachable.owned (reached : Reachable source remote capacity world)
    (present : world.worker = some worker) : Owned worker world := by
  refine reached.invariant ?_ (fun present held step there => held.work present step there)
    (fun _ held moved => held.rest moved) present
  intro idle topic policy fresh _
  have nothing := World.chronicleSpawn topic policy capacity fresh
  refine ⟨?_, ?_, ?_, ?_, fun _ => ?_, nofun⟩
  · rw [nothing]
    exact orderlyNil
  all_goals simp only [World.opened, World.failed, World.closed, nothing]
  all_goals rfl

/-- On its way out a worker calls nothing but the close of what it holds. -/
theorem World.closeHeldSame {held : Option Nat} {signal : Bool}
    (same : Alike (.leaving held) signal source other) :
    world.closeHeld other held worker = world.closeHeld source held worker := by
  cases held with
  | none => rfl
  | some number => simp only [World.closeHeld, same.close world.clock number rfl]

/-- A step asks for a subscription only while none is held, and it listens to or closes only
the one that is held. -/
theorem World.stepSame (present : world.worker = some worker) (unordered : worker.cancelled = false)
    (same : Alike worker.phase world.coordinator.signalArrives source other) :
    world.step other = world.step source := by
  simp only [World.step, present, unordered, Bool.false_and, Bool.false_eq_true, if_false]
  unfold World.proceed
  cases phase : worker.phase with
  | created =>
      rw [phase] at same
      simp only [World.beginOpen, same.beginOpen rfl rfl]
  | opening =>
      rw [phase] at same
      simp only [same.completion rfl rfl]
  | pausing due =>
      rw [phase] at same
      simp only [World.beginOpen, same.beginOpen rfl rfl]
  | watching number =>
      rw [phase] at same
      cases signal : world.coordinator.signalArrives with
      | true => rfl
      | false => simp only [World.broken, same.abandon rfl signal,
          same.delivery world.clock number rfl rfl signal]
  | leaving held =>
      rw [phase] at same
      simp only [World.closeHeldSame same]
  | handing number item => rfl
  | blocked number item ticket => rfl
  | ending => rfl
  | finished => rfl
  | stopped => rfl

namespace Owned

theorem distinct (owned : Owned worker world) : world.opened.Nodup := by
  rw [owned.opened]
  exact List.nodup_range

/-- Nobody who has failed is closed as well, and both are no longer held. -/
theorem once (owned : Owned worker world) {number : Nat} (member : number ∈ world.opened) :
    world.failed.count number + world.closed.count number +
      worker.phase.held?.toList.count number = 1 := by
  have one : world.opened.count number = 1 := by rw [owned.distinct.count, if_pos member]
  rw [← owned.ended, List.count_append, List.count_append] at one
  exact one

theorem failedIsOpened (owned : Owned worker world) {number : Nat}
    (member : number ∈ world.failed) : number ∈ world.opened := by
  rw [← owned.ended]
  exact List.mem_append_left _ (List.mem_append_left _ member)

end Owned

/-- A step closes nothing but what is still held on the way out. -/
theorem WorkerStep.closedCases (step : WorkerStep source worker world added next) :
    next.closed = world.closed ∨ ∃ number, worker.phase = .leaving (some number) ∧
      next.closed = world.closed ++ [number] := by
  obtain ⟨_, _, closed⟩ := World.handlesAdded step.chronicle
  cases step with
  | close phase => exact .inr ⟨_, phase, closed⟩
  | leave =>
      rw [(handlesParting worker).2.2, List.append_nil] at closed
      exact .inl closed
  | @offer number item =>
      refine .inl (closed.trans ?_)
      cases (world.channel.offer item).1 <;> exact List.append_nil _
  | @poll number ticket item =>
      refine .inl (closed.trans ?_)
      cases (world.channel.poll ticket).1 <;> exact List.append_nil _
  | _ => exact .inl (closed.trans (List.append_nil _))

/-- Whoever is over has closed exactly what it held when it left its loop. -/
theorem Reachable.closedAfterLeaving {final : World State Item} {last : Worker Item}
    (reached : Reachable source remote capacity world) (present : world.worker = some worker)
    (phase : worker.phase = .leaving worker.phase.held?) (run : Run source remote world final)
    (there : final.worker = some last) (isOver : last.phase.isOver = true) :
    heldAfter final.chronicle = [] ∧ final.closed = worker.phase.held?.toList ∧
      final.failed = world.failed := by
  have owned := reached.owned present
  have ownedLast := (reached.run run).owned there
  obtain ⟨_, opened, failed⟩ := reached.afterLeaving present (by rw [phase]; rfl) run
  have unclosed := owned.unclosed (by rw [phase]; rfl)
  have nothing : last.phase.held?.toList = [] := by
    rw [((reached.run run).endedBySignal there isOver).1]
    rfl
  refine ⟨ownedLast.held.trans nothing, ?_, failed⟩
  have ended := ownedLast.ended
  rw [nothing, List.append_nil, opened, failed, ← owned.ended, unclosed, List.append_nil] at ended
  exact List.append_cancel_left ended

/-- This is what holds at every moment for the subscriptions of a worker whose source notes all
calls. -/
structure Exclusive (source : Source State Item) (remote : State → State → Prop)
    (worker : Worker Item) (world : World (Noted State Item) Item) : Prop where
  /-- The source was called exactly as the chronicle says. -/
  told : world.source.calls = world.chronicle.filterMap (Happening.call? worker.topic)
  /-- Everything that happened to a subscription was permitted when it happened. -/
  orderly : Orderly world.chronicle
  /-- At most one subscription is held, and it is the one in the hands of the worker. -/
  held : heldAfter world.chronicle = worker.phase.held?.toList
  /-- Each step only asks, listens to and closes what it may. -/
  calls : ∀ other, Alike worker.phase world.coordinator.signalArrives source.noting other →
    world.step other = world.step source.noting
  /-- Every opened subscription has failed, was closed or is held, and only one of these. -/
  once : ∀ number ∈ world.opened, world.failed.count number + world.source.closes.count number +
    worker.phase.held?.toList.count number = 1
  /-- A subscription that failed is never closed later. -/
  failed : ∀ number ∈ world.failed, ∀ final, Run source.noting (Noting remote) world final →
    final.source.closes.count number = 0
  /-- Only the one that is still held after the announcement of the end is closed. -/
  announced : ∀ next, world.step source.noting = some next →
    next.source.closes ≠ world.source.closes → ∃ number,
      worker.phase = .leaving (some number) ∧ worker.status = .terminating ∧
      .changed .terminating ∈ world.chronicle ∧ next.source.closes = [number]
  /-- Whoever leaves its loop has closed nothing so far, and when it is over it has closed what it
  held at that moment and nothing else. -/
  ends : ∀ next later, world.step source.noting = some next → next.worker = some later →
    worker.phase.hasLeft = false → later.phase.hasLeft = true →
    world.source.closes = [] ∧ later.phase = .leaving worker.phase.held? ∧
      ∀ final last, Run source.noting (Noting remote) next final → final.worker = some last →
        last.phase.isOver = true → heldAfter final.chronicle = [] ∧
          final.source.closes = worker.phase.held?.toList ∧ final.failed = world.failed
  /-- The signal comes before whatever the subscription has ready, and then the subscription is
  closed. -/
  wins : ∀ number, worker.phase = .watching number → world.coordinator.signalArrives = true →
    ∃ next closed, world.step source.noting = some next ∧ next.step source.noting = some closed ∧
      closed.source.closes = [number] ∧ closed.failed = world.failed

/-- A worker owns its subscriptions alone, and each of them fails or is closed once. -/
theorem subscriptionsOwned {world : World (Noted State Item) Item}
    (heard : Overheard source remote capacity world) (present : world.worker = some worker) :
    Exclusive source remote worker world := by
  have reached := heard.reachable
  have owned := reached.owned present
  have unordered := reached.unordered present
  refine ⟨heard.told present, owned.orderly, owned.held,
    fun other same => World.stepSame present unordered same, ?_, ?_, ?_, ?_, ?_⟩
  · rw [heard.closes]
    exact fun number member => owned.once member
  · intro number member final run
    have reachedFinal := reached.run run
    obtain ⟨more, grown⟩ := reached.grows run
    obtain ⟨_, failed, _⟩ := World.handlesAdded grown
    have stillFailed : number ∈ final.failed := failed ▸ List.mem_append_left _ member
    obtain ⟨last, there, _⟩ := reachedFinal.staffed
    have ownedFinal := reachedFinal.owned there
    have once := ownedFinal.once (ownedFinal.failedIsOpened stillFailed)
    have positive : 0 < final.failed.count number := List.count_pos_iff.mpr stillFailed
    rw [(heard.run run).closes]
    omega
  · intro next stepped changed
    rw [(heard.next (.work stepped)).closes, heard.closes] at changed
    rw [(heard.next (.work stepped)).closes]
    obtain ⟨added, step⟩ := World.stepCases present unordered stepped
    rcases step.closedCases with same | ⟨number, phase, closed⟩
    · exact absurd same changed
    · obtain ⟨status, announced⟩ := owned.announced (by rw [phase]; rfl)
      rw [owned.unclosed (by rw [phase]; rfl)] at closed
      exact ⟨number, phase, status, announced, closed⟩
  · intro next later stepped there staying left
    obtain ⟨added, step⟩ := World.stepCases present unordered stepped
    rcases step.leaves present there left with before | ⟨heeds, _, rfl⟩
    · rw [staying] at before
      contradiction
    · obtain rfl := Option.some.inj there
      have heardNext := heard.next (.work stepped)
      have unclosed := owned.unclosed (Phase.unclosedOfStayed staying)
      have unfailed : (world.leave worker).failed = world.failed := by
        obtain ⟨_, failed, _⟩ := World.handlesAdded (World.chronicleLeave worker world)
        rw [failed, (handlesParting worker).2.1, List.append_nil]
      refine ⟨heard.closes.trans unclosed, rfl, ?_⟩
      intro final last run thereLast isOver
      obtain ⟨held, closed, failed⟩ :=
        heardNext.reachable.closedAfterLeaving rfl rfl run thereLast isOver
      rw [(heardNext.run run).closes]
      exact ⟨held, closed, failed.trans unfailed⟩
  · intro number phase signal
    have leaves : world.step source.noting = some (world.leave worker) :=
      World.stepOfSignal present unordered (by simp [Worker.heeds, phase]) signal
    let leaver : Worker Item :=
      { worker with status := .terminating, phase := .leaving worker.phase.held? }
    have leaving : leaver.phase = .leaving (some number) := by simp [leaver, phase, Phase.held?]
    have closes : (world.leave worker).step source.noting =
        some ((world.leave worker).closeHeld source.noting (some number) leaver) :=
      World.stepOfLeaving rfl unordered leaving
    obtain ⟨_, failed, closed⟩ := World.handlesAdded (World.chronicleLeave worker world)
    rw [(handlesParting worker).2.1, List.append_nil] at failed
    rw [(handlesParting worker).2.2, owned.unclosed (by rw [phase]; rfl)] at closed
    obtain ⟨_, failedThen, closedThen⟩ := World.handlesAdded
      (World.chronicleCloseHeld leaver (world.leave worker) source.noting (some number))
    rw [closed] at closedThen
    refine ⟨_, _, leaves, closes, ?_, failedThen.trans ((List.append_nil _).trans failed)⟩
    rw [((heard.next (.work leaves)).next (.work closes)).closes]
    exact closedThen

/-- The first subscription fails, and the second one is about to fail when the signal comes. -/
def bereft : World (Noted (Script Nat) Nat) Nat :=
  let idle : World (Noted (Script Nat) Nat) Nat := { source := { state := {} } }
  let failing (number : Nat) (world : World (Noted (Script Nat) Nat) Nat) :=
    { world with source :=
        { world.source with state := (world.source.state.send number [.failure .closed]).2 } }
  let first := (idle.spawn "heads" .immediate 1).settle Script.source.noting
  let second := (failing 0 first).settle Script.source.noting
  (failing 1 second).trigger

theorem bereftOverheard : Overheard Script.source (fun _ _ => True) 1 bereft := by
  have attends (clock : Nat) (noted : Noted (Script Nat) Nat) :
      Noting (fun _ _ => True) noted (Script.source.noting.attend clock noted) := ⟨trivial, rfl⟩
  refine .trigger ?_ rfl
  refine .next ?_ (.outside (.serve ⟨trivial, rfl⟩))
  refine .run ?_ (Run.settle attends _)
  refine .next ?_ (.outside (.serve ⟨trivial, rfl⟩))
  exact .run (.start rfl rfl .new "heads" .immediate) (Run.settle attends _)

/-- The failure that came first is never closed, and the signal wins against the other one. -/
theorem subscriptionsOwnedBereft : bereft.opened = [0, 1] ∧ bereft.failed = [0] ∧
    (∀ final, Run Script.source.noting (Noting fun _ _ => True) bereft final →
      final.source.closes.count 0 = 0) ∧
    ∃ next closed, bereft.step Script.source.noting = some next ∧
      next.step Script.source.noting = some closed ∧ closed.source.closes = [1] ∧
      closed.failed = [0] := by
  have present : bereft.worker = some _ := rfl
  have exclusive := subscriptionsOwned bereftOverheard present
  have failed : bereft.failed = [0] := rfl
  refine ⟨rfl, failed, exclusive.failed 0 (failed ▸ List.mem_singleton_self 0), ?_⟩
  exact exclusive.wins 1 rfl rfl

end NodeBridge.Observer
