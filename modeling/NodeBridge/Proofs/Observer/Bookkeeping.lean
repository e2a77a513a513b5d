import NodeBridge.Proofs.Observer.Announcement
import NodeBridge.Proofs.Observer.Delivery

/-
This file compares what a worker counts and publishes with what it does.
The counters of attempts and failures add up to the subscription that is held and the attempt that
is under way, and the gauge and the status say at every moment whether a subscription is held.
-/

namespace NodeBridge.Observer

variable {State Item : Type}

/-- A happening is counted by at most one counter. -/
@[simp] def Happening.counter? (topic : String) : Happening Item → Option Metric
  | .attempted => some (.openAttempts topic)
  | .refused _ _ => some (.openFailures topic)
  | .broken _ _ => some (.streamFailures topic)
  | .forwarded _ => some (.itemsForwarded topic)
  | _ => none

/-- These are the metrics after all of this has happened. -/
def tally (topic : String) (metrics : Metrics) (added : List (Happening Item)) : Metrics :=
  added.foldl (fun metrics happening => happening.count topic metrics) metrics

/-- The gauge shows a status as a number. -/
def gaugeOf (status : Status) : Nat := if status = .subscribed then 1 else 0

/-- An attempt is under way. -/
def Phase.isOpening : Phase Item → Bool
  | .opening => true
  | _ => false

/-- So many happenings are counted by a counter. -/
def World.countOf (topic : String) (counter : Metric) (world : World State Item) : Nat :=
  (world.chronicle.filterMap (Happening.counter? topic)).count counter

/-- This much has been added to a counter since then. -/
def World.gain (before : Metrics) (counter : Metric) (world : World State Item) : Nat :=
  world.metrics.count counter - before.count counter

/-- A run in which the feed was given so many items, as its buffer shows after each move. -/
inductive Filling (source : Source State Item) (remote : State → State → Prop)
    (first : World State Item) : Nat → World State Item → Prop where
  | start : Filling source remote first 0 first
  | next {items : Nat} {world later : World State Item}
      (filling : Filling source remote first items world) (move : Move source remote world later) :
      Filling source remote first
        (items + (later.channel.buffer.size - world.channel.buffer.size)) later

section Tally

variable {topic : String} {counter : Metric}

/-- A happening touches its own counter. -/
theorem countHappening (metrics : Metrics) (happening : Happening Item)
    (unlike : counter ≠ .subscribed topic) : (happening.count topic metrics).count counter =
      metrics.count counter + (happening.counter? topic).toList.count counter := by
  have increment (metric : Metric) : (metrics.increment metric).count counter =
      metrics.count counter + (some metric).toList.count counter := by
    rw [Metrics.countIncrement]
    by_cases same : counter = metric
    · simp [same]
    · simp [same, Ne.symm same]
  cases happening with
  | attempted | refused | broken | forwarded => exact increment _
  | changed => exact (Metrics.countSet _ _ _ _).trans (if_neg unlike)
  | _ => rfl

/-- The counters go up with every happening that they count. -/
theorem countTally (metrics : Metrics) (added : List (Happening Item))
    (unlike : counter ≠ .subscribed topic) : (tally topic metrics added).count counter =
      metrics.count counter + (added.filterMap (Happening.counter? topic)).count counter := by
  induction added generalizing metrics with
  | nil => rfl
  | cons happening rest inductionHypothesis =>
      rw [tally, List.foldl_cons, ← tally, inductionHypothesis, countHappening _ _ unlike,
        Nat.add_assoc, ← List.count_append, List.filterMap_cons]
      cases happening.counter? topic <;> rfl

theorem gaugeHappening (metrics : Metrics) (happening : Happening Item) :
    (happening.count topic metrics).value? (.subscribed topic) =
      (happening.changed?.map gaugeOf).or (metrics.value? (.subscribed topic)) := by
  cases happening with
  | attempted | refused | broken | forwarded => exact Metrics.valueSet _ _ _ _
  | changed => exact (Metrics.valueSet _ _ _ _).trans (if_pos rfl)
  | _ => rfl

/-- The gauge shows the status that was published last. -/
theorem gaugeTally (metrics : Metrics) (added : List (Happening Item)) :
    (tally topic metrics added).value? (.subscribed topic) =
      ((added.filterMap Happening.changed?).getLast?.map gaugeOf).or
        (metrics.value? (.subscribed topic)) := by
  induction added generalizing metrics with
  | nil => rfl
  | cons happening rest inductionHypothesis =>
      rw [tally, List.foldl_cons, ← tally, inductionHypothesis, gaugeHappening, List.filterMap_cons]
      cases happening.changed? with
      | none => rfl
      | some status =>
          rw [List.getLast?_cons]
          cases (rest.filterMap Happening.changed?).getLast? <;> rfl

end Tally

variable {source : Source State Item} {remote : State → State → Prop} {capacity items : Nat}
  {topic : String} {policy : RetryPolicy} {idle world next final : World State Item}
  {worker later : Worker Item} {added : List (Happening Item)} {before : Metrics}

section Metrics

/-- Whoever leaves its loop touches nothing but the gauge. -/
theorem World.metricsLeave (worker : Worker Item) (world : World State Item) :
    (world.leave worker).metrics = tally worker.topic world.metrics worker.parting := by
  cases phase : worker.phase <;>
    simp [leave, cutOff, record, setWorker, phase, Worker.parting, tally, Happening.count]

theorem World.metricsHandOver (number : Nat) (item : Item) (progress : Feed.Progress) :
    (world.handOver worker number item progress).metrics =
      tally worker.topic world.metrics (Happening.ofProgress item progress) := by
  cases progress <;> rfl

/-- A step counts exactly what happens with it. -/
theorem WorkerStep.metrics (step : WorkerStep source worker world added next) :
    next.metrics = tally worker.topic world.metrics added := by
  cases step with
  | offer | poll => exact World.metricsHandOver _ _ _
  | leave => exact World.metricsLeave worker world
  | _ => rfl

/-- Others count nothing but calls that fail. -/
theorem Outside.metrics (moved : Outside remote world next) : next.metrics = world.metrics ∨
    ∃ call, next.metrics = world.metrics.increment (.callFailures call) := by
  cases moved with
  | take taken =>
      obtain ⟨channel, _, rfl⟩ := World.takeCases taken
      exact .inl rfl
  | count call => exact .inr ⟨call, rfl⟩
  | _ => exact .inl rfl

end Metrics

/-- The metrics are those from before with what has happened since then. -/
structure Booked (topic : String) (before : Metrics) (world : World State Item) : Prop where
  counters : ∀ counter, counter ≠ .subscribed topic → (∀ call, counter ≠ .callFailures call) →
    world.metrics.count counter = before.count counter + world.countOf topic counter
  gauge : world.metrics.value? (.subscribed topic) =
    (world.published.getLast?.map gaugeOf).or (before.value? (.subscribed topic))

theorem World.countOfAdded (chronicle : next.chronicle = world.chronicle ++ added)
    (counter : Metric) : next.countOf topic counter =
      world.countOf topic counter + (added.filterMap (Happening.counter? topic)).count counter := by
  rw [countOf, chronicle, List.filterMap_append, List.count_append, countOf]

namespace Booked

theorem work (booked : Booked worker.topic before world)
    (step : WorkerStep source worker world added next) : Booked worker.topic before next := by
  have chronicle := step.chronicle
  constructor
  · intro counter unlike uncalled
    rw [step.metrics, countTally _ _ unlike, booked.counters counter unlike uncalled,
      World.countOfAdded chronicle, Nat.add_assoc]
  · rw [step.metrics, gaugeTally, booked.gauge, World.publishedAdded chronicle,
      ← Option.or_assoc, List.getLast?_append, Option.map_or]

theorem rest (booked : Booked topic before world) (moved : Outside remote world next) :
    Booked topic before next := by
  obtain ⟨taken, chronicle⟩ := moved.chronicleAdds
  have published := World.publishedKept chronicle
  have counts (counter : Metric) : next.countOf topic counter = world.countOf topic counter := by
    rw [World.countOfAdded chronicle, World.takingUnseen _ _ fun _ => rfl]
    rfl
  rcases moved.metrics with same | ⟨call, failed⟩
  · refine ⟨?_, ?_⟩
    · rw [same]
      intro counter unlike uncalled
      rw [counts]
      exact booked.counters counter unlike uncalled
    · rw [same, published]
      exact booked.gauge
  · refine ⟨?_, ?_⟩
    · intro counter unlike uncalled
      rw [failed, Metrics.countIncrement, if_neg (uncalled call), counts]
      exact booked.counters counter unlike uncalled
    · rw [failed, published, Metrics.increment, Metrics.valueSet, if_neg (by simp)]
      exact booked.gauge

end Booked

/-- Every attempt has been refused, has opened a subscription or is under way. -/
def Asked (worker : Worker Item) (world : World State Item) : Prop :=
  world.countOf worker.topic (.openAttempts worker.topic) =
    world.countOf worker.topic (.openFailures worker.topic) + world.opened.length +
      worker.phase.isOpening.toNat

theorem Asked.after (asked : Asked worker world) (topic : later.topic = worker.topic)
    (chronicle : next.chronicle = world.chronicle ++ added)
    (adds : (added.filterMap (Happening.counter? worker.topic)).count
        (.openAttempts worker.topic) + worker.phase.isOpening.toNat =
      (added.filterMap (Happening.counter? worker.topic)).count (.openFailures worker.topic) +
        (added.filterMap Happening.established?).length + later.phase.isOpening.toNat) :
    Asked later next := by
  obtain ⟨opened, _⟩ := World.handlesAdded chronicle
  have before : _ = _ := asked
  rw [Asked, topic, World.countOfAdded chronicle, World.countOfAdded chronicle, opened,
    List.length_append]
  omega

/-- Leaving the loop is not counted. -/
theorem countersParting (topic : String) (worker : Worker Item) :
    worker.parting.filterMap (Happening.counter? topic) = [] := by
  cases phase : worker.phase <;> simp [Worker.parting, phase, List.filterMap_cons]

/-- Whatever becomes of an item, no attempt ends with it or begins with it. -/
theorem Asked.handOver {number : Nat} {item : Item} {progress : Feed.Progress}
    {channel : Feed.Channel Item} (asked : Asked worker world)
    (closed : worker.phase.isOpening = false)
    (there : ({ world with channel }.handOver worker number item progress).worker = some later) :
    Asked later ({ world with channel }.handOver worker number item progress) := by
  have chronicle : ({ world with channel }.handOver worker number item progress).chronicle =
      world.chronicle ++ Happening.ofProgress item progress :=
    World.chronicleHandOver number item progress
  cases progress with
  | accepted | closed | waits =>
      obtain rfl := Option.some.inj there
      refine asked.after rfl chronicle ?_
      rw [closed]
      rfl

theorem Asked.work (present : world.worker = some worker) (asked : Asked worker world)
    (step : WorkerStep source worker world added next) (there : next.worker = some later) :
    Asked later next := by
  have chronicle := step.chronicle
  cases step with
  | start phase | retry phase | subscribe phase | refuse phase | deliver phase | fail phase
  | ignore phase | close phase | spare phase | finish phase =>
      obtain rfl := Option.some.inj there
      exact asked.after rfl chronicle (by simp [phase, Phase.isOpening, List.filterMap_cons])
  | remark phase =>
      obtain rfl := Option.some.inj (present.symm.trans there)
      exact asked.after rfl chronicle rfl
  | offer phase => exact asked.handOver (by rw [phase]; rfl) there
  | poll phase => exact asked.handOver (by rw [phase]; rfl) there
  | leave heeds =>
      obtain rfl := Option.some.inj there
      have closed : worker.phase.isOpening = false := by
        cases phase : worker.phase <;> simp_all [Worker.heeds, Phase.isOpening]
      refine asked.after rfl chronicle ?_
      rw [countersParting, (handlesParting worker).1, closed]
      rfl

theorem Asked.rest (asked : Asked worker world) (moved : Outside remote world next) :
    Asked worker next := by
  obtain ⟨items, chronicle⟩ := moved.chronicleAdds
  refine asked.after rfl chronicle ?_
  repeat rw [World.takingUnseen _ _ fun _ => rfl]
  rfl

theorem Reachable.asked (reached : Reachable source remote capacity world)
    (present : world.worker = some worker) : Asked worker world := by
  refine reached.invariant ?_ (fun present held step there => held.work present step there)
    (fun _ held moved => held.rest moved) present
  intro idle topic policy fresh _
  have nothing := World.chronicleSpawn topic policy capacity fresh
  simp only [Asked, World.countOf, World.opened, nothing]
  rfl

/-- A run from the spawn of a worker keeps its topic, its books and the number of its items. -/
structure Filled (topic : String) (before : Metrics) (items : Nat) (world : World State Item) :
    Prop where
  named : ∀ worker, world.worker = some worker → worker.topic = topic
  booked : Booked topic before world
  items : items = world.forwarded.length

theorem Filling.run (filling : Filling source remote idle items world) :
    Run source remote idle world := by
  induction filling with
  | start => exact .refl
  | next _ move inductionHypothesis => exact .tail inductionHypothesis move

theorem Filling.filled (fresh : idle.history = []) (coordinator : idle.coordinator.Reachable)
    (filling : Filling source remote (idle.spawn topic policy capacity) items world) :
    Filled topic idle.metrics items world := by
  have spawned : Reachable source remote capacity (idle.spawn topic policy capacity) :=
    .start fresh coordinator topic policy
  induction filling with
  | start =>
      have nothing := World.chronicleSpawn topic policy capacity fresh
      refine ⟨?_, ⟨?_, ?_⟩, ?_⟩
      · intro worker present
        exact Option.some.inj present ▸ rfl
      · intro counter _ _
        rw [World.countOf, nothing]
        rfl
      · rw [World.published, nothing]
        rfl
      · rw [World.forwarded, nothing]
        rfl
  | @next items world later filling move inductionHypothesis =>
      obtain ⟨sameTopic, booked, filled⟩ := inductionHypothesis
      have reached := spawned.run filling.run
      obtain ⟨worker, present, unordered⟩ := reached.staffed
      obtain rfl := sameTopic worker present
      cases move with
      | work stepped =>
          obtain ⟨added, step⟩ := World.stepCases present unordered stepped
          obtain ⟨next, there, kept, _⟩ := step.staffed present
          obtain ⟨_, forwarded, _⟩ := World.itemsAdded step.chronicle
          have fills := congrArg List.length ((reached.flow present).fills step)
          rw [List.length_append, Feed.Queue.lengthToList, Feed.Queue.lengthToList] at fills
          refine ⟨?_, booked.work step, ?_⟩
          · intro other same
            obtain rfl := Option.some.inj (there.symm.trans same)
            exact kept
          · rw [forwarded, List.length_append]
            omega
      | outside moved =>
          obtain ⟨taken, chronicle⟩ := moved.chronicleAdds
          obtain ⟨⟨_, forwarded, _⟩, _⟩ := World.keptByTaking chronicle
          have shrinks := moved.drains.length_le
          rw [Feed.Queue.lengthToList, Feed.Queue.lengthToList] at shrinks
          refine ⟨?_, booked.rest moved, ?_⟩
          · rw [moved.workerSame]
            exact sameTopic
          · rw [forwarded]
            omega

/-- The counters and the status of a worker agree with its attempts and its subscription, and with
what was called on its source. -/
structure Truthful (source : Source State Item) (remote : State → State → Prop)
    (before : Metrics) (topic : String) (items : Nat) (worker : Worker Item)
    (world : World (Noted State Item) Item) : Prop where
  /-- The source was called exactly as the chronicle says. -/
  told : world.source.calls = world.chronicle.filterMap (Happening.call? topic)
  /-- A subscription is held from its opening until it fails or is closed. -/
  held : heldAfter world.chronicle = worker.phase.held?.toList
  /-- No counter of the worker ever goes down. -/
  grown : ∀ counter ∈ [Metric.openAttempts topic, .openFailures topic, .streamFailures topic,
    .itemsForwarded topic], before.count counter ≤ world.metrics.count counter
  /-- Every attempt has failed, its subscription has failed or is held, or it is under way. -/
  going : worker.phase.hasClosed = false → world.gain before (.openAttempts topic) =
    world.gain before (.openFailures topic) + world.gain before (.streamFailures topic) +
      worker.phase.held?.toList.length + worker.phase.isOpening.toNat
  /-- No attempt is under way while a subscription is held. -/
  apart : worker.phase.held?.toList.length + worker.phase.isOpening.toNat ≤ 1
  /-- In the end every attempt has failed, or its subscription has failed or was closed. -/
  ended : worker.phase.hasClosed = true → world.gain before (.openAttempts topic) =
    world.gain before (.openFailures topic) + world.gain before (.streamFailures topic) +
      world.source.closes.length
  /-- The feed was given as many items as are counted. -/
  forwarded : world.gain before (.itemsForwarded topic) = items
  /-- The status is the one published last, and it says whether a subscription is held by a worker
  that has not left its loop. -/
  status : (.unsubscribed :: world.published).getLast? = some worker.status ∧
    (worker.status = .subscribed ↔
      worker.phase.held?.isSome = true ∧ worker.phase.hasLeft = false)
  /-- The gauge is left alone until the first change, and then it shows the status. -/
  gauge : world.metrics.value? (.subscribed topic) =
    if world.published = [] then before.value? (.subscribed topic)
    else some (if worker.status = .subscribed then 1 else 0)
  /-- The status goes up and down, it may be up once more, and the end of the worker comes last. -/
  path : ∃ failed kept, kept ≤ 1 ∧
    world.published = statusPath failed kept worker.phase.hasLeft
  /-- The end is published once, when the worker leaves its loop, and nothing is published after
  it, also when the worker is over. -/
  last : world.published.count .terminating = worker.phase.hasLeft.toNat ∧
    (worker.phase.hasLeft = true → ∀ final, Run source.noting (Noting remote) world final →
      final.published = world.published) ∧
    (worker.phase.isOver = true ↔ worker.phase = .finished)

theorem terminatingPath (failed kept : Nat) (hasLeft : Bool) :
    (statusPath failed kept hasLeft).count .terminating = hasLeft.toNat := by
  cases hasLeft <;> simp [statusPath, List.count_flatten, List.count_replicate]

/-- A counter that looks for the same happenings as an account agrees with it. -/
theorem countChosen {B : Type} {counter : Metric} {choose : Happening Item → Option B}
    (same : ∀ happening, happening.counter? topic = some counter ↔ (choose happening).isSome = true)
    (past : List (Happening Item)) :
    (past.filterMap (Happening.counter? topic)).count counter = (past.filterMap choose).length := by
  rw [List.count, List.countP_filterMap, List.length_filterMap_eq_countP]
  refine List.countP_congr fun happening _ => ?_
  rw [← same]
  cases happening.counter? topic <;> simp

/-- What is gained since the spawn is what happened since then. -/
theorem Filled.gained (filled : Filled topic before items world) {counter : Metric}
    (own : counter ∈ [Metric.openAttempts topic, .openFailures topic, .streamFailures topic,
      .itemsForwarded topic]) :
    before.count counter ≤ world.metrics.count counter ∧
      world.gain before counter = world.countOf topic counter := by
  have counted : world.metrics.count counter =
      before.count counter + world.countOf topic counter := by
    simp only [List.mem_cons, List.not_mem_nil, or_false] at own
    rcases own with rfl | rfl | rfl | rfl <;> exact filled.booked.counters _ (by simp) (by simp)
  rw [World.gain, counted]
  exact ⟨Nat.le_add_right _ _, Nat.add_sub_cancel_left _ _⟩

/-- Every attempt is accounted for, whether it failed, its subscription ended or it goes on. -/
theorem Filled.balance (filled : Filled topic before items world) (owned : Owned worker world)
    (asked : Asked worker world) (named : worker.topic = topic) :
    world.gain before (.openAttempts topic) = world.gain before (.openFailures topic) +
      world.gain before (.streamFailures topic) + world.closed.length +
        worker.phase.held?.toList.length + worker.phase.isOpening.toNat := by
  subst named
  have attempts : world.countOf worker.topic (.openAttempts worker.topic) = _ := asked
  have failed : world.countOf worker.topic (.streamFailures worker.topic) =
      world.failed.length :=
    countChosen (by rintro ⟨⟩ <;> simp) world.chronicle
  have ended := congrArg List.length owned.ended
  simp only [List.length_append] at ended
  rw [(filled.gained (by simp)).2, (filled.gained (by simp)).2, (filled.gained (by simp)).2,
    attempts, failed]
  omega

/-- Nothing is published after a worker has left its loop. -/
theorem Reachable.publishedAfterLeaving {last : Worker Item}
    (reached : Reachable source remote capacity world) (present : world.worker = some worker)
    (left : worker.phase.hasLeft = true) (run : Run source remote world final)
    (there : final.worker = some last) (leftStill : last.phase.hasLeft = true) :
    final.published = world.published := by
  have reachedFinal := reached.run run
  obtain ⟨_, opened, failed⟩ := reached.afterLeaving present left run
  have before := congrArg List.length (reached.owned present).ended
  have after := congrArg List.length (reachedFinal.owned there).ended
  rw [opened] at after
  simp only [List.length_append, failed] at before after
  have kept : final.closed.length + last.phase.held?.toList.length =
      world.closed.length + worker.phase.held?.toList.length := by omega
  rw [(reachedFinal.announced there).path, (reached.announced present).path, failed, kept, left,
    leftStill]

/-- The counters, the gauge and the published status tell the truth about the subscription at every
moment of every run. -/
theorem booksTellTheTruth {idle world : World (Noted State Item) Item} (fresh : idle.history = [])
    (uncalled : idle.source.calls = []) (coordinator : idle.coordinator.Reachable)
    (filling : Filling source.noting (Noting remote) (idle.spawn topic policy capacity) items world)
    (present : world.worker = some worker) :
    Truthful source remote idle.metrics topic items worker world := by
  have heard : Overheard source remote capacity world :=
    .run (.start fresh uncalled coordinator topic policy) filling.run
  have reached := heard.reachable
  have filled := filling.filled fresh coordinator
  have named := filled.named worker present
  have announced := reached.announced present
  have owned := reached.owned present
  have balance := filled.balance owned (reached.asked present) named
  have ends : worker.phase.isOver = true ↔ worker.phase = .finished :=
    ⟨fun isOver => (reached.endedBySignal present isOver).1, fun finished => finished ▸ rfl⟩
  refine ⟨named ▸ heard.told present, owned.held, fun counter own => (filled.gained own).1, ?_, ?_,
    ?_, ?_, ⟨announced.latest, ?_⟩, ?_, ⟨_, _, announced.alone, announced.path⟩, ?_, ?_, ends⟩
  · intro unclosed
    rw [balance, owned.unclosed unclosed]
    rfl
  · cases phase : worker.phase with
    | leaving held => cases held <;> simp [Phase.held?, Phase.isOpening]
    | _ => simp [Phase.held?, Phase.isOpening]
  · intro closed
    have unheld : worker.phase.held? = none ∧ worker.phase.isOpening = false := by
      cases phase : worker.phase with
      | ending | finished | stopped => exact ⟨rfl, rfl⟩
      | _ =>
          rw [phase] at closed
          cases closed
    rw [balance, heard.closes, unheld.1, unheld.2]
    rfl
  · rw [(filled.gained (by simp)).2, filled.items]
    exact countChosen (by rintro ⟨⟩ <;> simp) world.chronicle
  · rw [announced.status]
    cases worker.phase <;> simp [Phase.status, Phase.held?, Phase.hasLeft, Phase.isOver]
  · have latest := announced.latest
    rw [filled.booked.gauge]
    cases published : world.published with
    | nil => rfl
    | cons first rest =>
        rw [published, List.getLast?_cons_cons] at latest
        rw [latest]
        rfl
  · rw [announced.path]
    exact terminatingPath _ _ _
  · intro left final run
    obtain ⟨⟨last, there, leftStill⟩, _⟩ := reached.afterLeaving present left run
    exact reached.publishedAfterLeaving present left run there leftStill

/-- Any run can be watched for what it gives to the feed. -/
theorem Filling.ofRun (run : Run source remote idle world) :
    ∃ items, Filling source remote idle items world := by
  induction run with
  | refl => exact ⟨0, .start⟩
  | tail _ move inductionHypothesis =>
      obtain ⟨items, filling⟩ := inductionHypothesis
      exact ⟨_, filling.next move⟩

/-- The first attempt fails, the second one delivers more than the feed holds, and five attempts
were counted before. -/
def strained : World (Noted (Script Nat) Nat) Nat :=
  let plan : List (Outcome Nat) :=
    [{ verdict := .refused "busy" }, { verdict := .opened [7, 8] none }]
  let idle : World (Noted (Script Nat) Nat) Nat :=
    { source := { state := { plan } }, metrics := [(.openAttempts "heads", 5)] }
  idle.spawn "heads" .immediate 1

/-- One item is in the feed while another waits, and two more attempts are counted. -/
theorem booksTellTheTruthStrained : ∃ items worker,
    Truthful Script.source Eq [(.openAttempts "heads", 5)] "heads" items worker
      (strained.settle Script.source.noting) ∧
    items = 1 ∧ worker.phase.held? = some 0 ∧
    (strained.settle Script.source.noting).metrics.count (.openAttempts "heads") = 7 := by
  have attends (clock : Nat) (noted : Noted (Script Nat) Nat) :
      Noting Eq noted (Script.source.noting.attend clock noted) := ⟨rfl, rfl⟩
  have run : Run Script.source.noting (Noting Eq) strained
      (strained.settle Script.source.noting) := .settle attends _
  obtain ⟨items, filling⟩ := Filling.ofRun run
  have present : (strained.settle Script.source.noting).worker = some _ := rfl
  have truthful := booksTellTheTruth rfl rfl .new filling present
  exact ⟨items, _, truthful, truthful.forwarded.symm, rfl, rfl⟩

end NodeBridge.Observer
