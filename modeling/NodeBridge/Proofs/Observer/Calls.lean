import NodeBridge.Proofs.Observer.Run

/-
This file lists what a worker calls on its source, in the order of the calls.
A source that notes its calls does what the source itself does and is called exactly as the
chronicle of the worker says, and every run of a source is also a run of the one that notes.
-/

namespace NodeBridge.Observer

variable {State Item : Type}

/-- A subscription is asked for and received from by its number until it is closed.
Only calls that came back with something are listed, besides those that have just begun. -/
inductive Call (Item : Type) where
  | asked (topic : String)
  | answered (outcome : Except OpenError String)
  | received (number : Nat) (outcome : Except StreamError Item)
  | closed (number : Nat)

/-- A source has been called in this way, from the first call to the latest. -/
structure Noted (State Item : Type) where
  state : State
  calls : List (Call Item) := []

/-- A remark is no answer, and the call goes on after it. -/
def Delivery.call? (number : Nat) : Delivery Item → Option (Call Item)
  | .item value => some (.received number (.ok value))
  | .remark _ => none
  | .failure error => some (.received number (.error error))

/-- The source does what it always does, and the calls are written down beside it. -/
def Source.noting (source : Source State Item) : Source (Noted State Item) Item where
  attend now noted := { noted with state := source.attend now noted.state }
  beginOpen now topic noted :=
    ⟨source.beginOpen now topic noted.state, noted.calls ++ [.asked topic]⟩
  completion? now noted := (source.completion? now noted.state).map fun (outcome, state) =>
    (outcome, ⟨state, noted.calls ++ [.answered outcome]⟩)
  delivery? now number noted :=
    (source.delivery? now number noted.state).map fun (delivery, state) =>
      (delivery, ⟨state, noted.calls ++ (delivery.call? number).toList⟩)
  close now number noted :=
    let (state, events) := source.close now number noted.state
    (⟨state, noted.calls ++ [.closed number]⟩, events)
  abandon now noted := { noted with state := source.abandon now noted.state }
  due? noted := source.due? noted.state
  burst noted := source.burst noted.state

/-- The other side changes the source as ever and has no hand in the list. -/
def Noting (remote : State → State → Prop) (before after : Noted State Item) : Prop :=
  remote before.state after.state ∧ after.calls = before.calls

/-- These subscriptions were closed, once for each call. -/
def Noted.closes (noted : Noted State Item) : List Nat :=
  noted.calls.filterMap fun call =>
    match call with
    | .closed number => some number
    | _ => none

/-- A happening comes with this call. -/
@[simp] def Happening.call? (topic : String) : Happening Item → Option (Call Item)
  | .attempted => some (.asked topic)
  | .established _ name => some (.answered (.ok name))
  | .refused error _ => some (.answered (.error error))
  | .delivered number item => some (.received number (.ok item))
  | .broken number error => some (.received number (.error error))
  | .closed number => some (.closed number)
  | _ => none

/-- A worker is spawned while its source has not been called, and all later calls are noted. -/
inductive Overheard (source : Source State Item) (remote : State → State → Prop)
    (capacity : Nat) : World (Noted State Item) Item → Prop where
  | start {idle : World (Noted State Item) Item} (fresh : idle.history = [])
      (uncalled : idle.source.calls = []) (coordinator : idle.coordinator.Reachable)
      (topic : String) (policy : RetryPolicy) :
      Overheard source remote capacity (idle.spawn topic policy capacity)
  | next {world later : World (Noted State Item) Item}
      (heard : Overheard source remote capacity world)
      (move : Move source.noting (Noting remote) world later) :
      Overheard source remote capacity later

variable {source : Source State Item} {remote : State → State → Prop} {capacity : Nat}
  {world next : World (Noted State Item) Item} {worker : Worker Item}
  {added : List (Happening Item)}

theorem Overheard.reachable (heard : Overheard source remote capacity world) :
    Reachable source.noting (Noting remote) capacity world := by
  induction heard with
  | start fresh _ coordinator topic policy => exact .start fresh coordinator topic policy
  | next _ move inductionHypothesis => exact .next inductionHypothesis move

theorem Overheard.run (heard : Overheard source remote capacity world)
    (run : Run source.noting (Noting remote) world next) :
    Overheard source remote capacity next := by
  induction run with
  | refl => exact heard
  | tail _ move inductionHypothesis => exact .next inductionHypothesis move

/-- Giving the signal is one of the moves. -/
theorem Overheard.trigger (heard : Overheard source remote capacity world)
    (present : world.coordinator.isGone = false) :
    Overheard source remote capacity world.trigger := by
  have allowed : world.coordinator.Allows .trigger := present
  exact .next heard (.outside (.act allowed fun _ _ => nofun))

section Noting

variable {now number : Nat} {noted after : Noted State Item}

/-- Whoever notes an answer gets it from the source. -/
theorem Source.notesAnswer {outcome : Except OpenError String}
    (completed : source.noting.completion? now noted = some (outcome, after)) :
    source.completion? now noted.state = some (outcome, after.state) ∧
      after.calls = noted.calls ++ [.answered outcome] := by
  obtain ⟨⟨answer, state⟩, found, same⟩ := Option.map_eq_some_iff.mp completed
  obtain ⟨rfl, rfl⟩ := Prod.mk.inj same
  exact ⟨found, rfl⟩

theorem Source.notesDelivery {delivery : Delivery Item}
    (ready : source.noting.delivery? now number noted = some (delivery, after)) :
    source.delivery? now number noted.state = some (delivery, after.state) ∧
      after.calls = noted.calls ++ (delivery.call? number).toList := by
  obtain ⟨⟨arrived, state⟩, found, same⟩ := Option.map_eq_some_iff.mp ready
  obtain ⟨rfl, rfl⟩ := Prod.mk.inj same
  exact ⟨found, rfl⟩

end Noting

/-- Whatever becomes of an item, the source is not called. -/
theorem World.sourceHandOver {State : Type} {world : World State Item} (number : Nat)
    (item : Item) (progress : Feed.Progress) :
    (world.handOver worker number item progress).source = world.source := by
  cases progress <;> rfl

/-- A worker that leaves its loop calls nothing. -/
theorem callsParting (topic : String) (worker : Worker Item) :
    worker.parting.filterMap (Happening.call? topic) = [] := by
  cases phase : worker.phase <;> simp [Worker.parting, phase, List.filterMap_cons]

/-- A step calls exactly what happens with it. -/
theorem WorkerStep.calls (step : WorkerStep source.noting worker world added next) :
    next.source.calls = world.source.calls ++ added.filterMap (Happening.call? worker.topic) := by
  cases step with
  | subscribe _ completed => exact (Source.notesAnswer completed).2
  | refuse _ completed => exact (Source.notesAnswer completed).2
  | deliver _ _ ready => exact (Source.notesDelivery ready).2
  | remark _ _ ready => exact (Source.notesDelivery ready).2
  | fail _ _ ready => exact (Source.notesDelivery ready).2
  | @offer number item =>
      rw [World.sourceHandOver]
      cases (world.channel.offer item).1 <;> exact (List.append_nil _).symm
  | @poll number ticket item =>
      rw [World.sourceHandOver]
      cases (world.channel.poll ticket).1 <;> exact (List.append_nil _).symm
  | leave =>
      rw [(World.leaveKeeps worker world).2.2.1, callsParting, List.append_nil]
  | start | retry | close => rfl
  | ignore | spare | finish => exact (List.append_nil _).symm

/-- Nobody else calls the source. -/
theorem Outside.calls (moved : Outside (Noting remote) world next) :
    next.source.calls = world.source.calls := by
  cases moved with
  | serve may => exact may.2
  | take taken =>
      obtain ⟨channel, _, rfl⟩ := World.takeCases taken
      rfl
  | _ => rfl

/-- The source was called exactly as the chronicle says, and in the same order. -/
theorem Overheard.told (heard : Overheard source remote capacity world)
    (present : world.worker = some worker) :
    world.source.calls = world.chronicle.filterMap (Happening.call? worker.topic) := by
  induction heard generalizing worker with
  | start fresh uncalled _ topic policy =>
      rw [World.chronicleSpawn topic policy capacity fresh]
      exact uncalled
  | next heard move inductionHypothesis =>
      obtain ⟨before, there, unordered⟩ := heard.reachable.staffed
      have told := inductionHypothesis there
      cases move with
      | work stepped =>
          obtain ⟨added, step⟩ := World.stepCases there unordered stepped
          obtain ⟨later, same, topic, _⟩ := step.staffed there
          obtain rfl := Option.some.inj (same.symm.trans present)
          rw [step.calls, told, step.chronicle, topic, List.filterMap_append]
      | outside moved =>
          obtain rfl := Option.some.inj (present.symm.trans (moved.workerSame.trans there))
          obtain ⟨items, chronicle⟩ := moved.chronicleAdds
          rw [moved.calls, told, chronicle, List.filterMap_append,
            World.takingUnseen _ _ fun _ => rfl, List.append_nil]

/-- The subscriptions that were closed are those of the chronicle. -/
theorem Overheard.closes (heard : Overheard source remote capacity world) :
    world.source.closes = world.closed := by
  obtain ⟨worker, present, _⟩ := heard.reachable.staffed
  rw [Noted.closes, heard.told present, List.filterMap_filterMap, World.closed]
  congr 1
  funext happening
  cases happening <;> rfl

/-- What is held on the way out is closed by one call. -/
theorem World.closesCloseHeld (source : Source State Item) (held : Option Nat)
    (worker : Worker Item) (world : World (Noted State Item) Item) :
    (world.closeHeld source.noting held worker).source.closes =
      world.source.closes ++ held.toList := by
  cases held with
  | none => exact (List.append_nil _).symm
  | some number => exact List.filterMap_append

section Plain

/-- This is the same world without the list of calls. -/
def World.plain (world : World (Noted State Item) Item) : World State Item where
  clock := world.clock
  coordinator := world.coordinator
  source := world.source.state
  channel := world.channel
  feedHeld := world.feedHeld
  worker := world.worker
  history := world.history
  events := world.events
  metrics := world.metrics

theorem World.cutOffPlain (worker : Worker Item) (world : World (Noted State Item) Item) :
    (world.cutOff worker).plain = world.plain.cutOff worker := by
  unfold cutOff
  cases worker.phase <;> rfl

theorem World.leavePlain (worker : Worker Item) (world : World (Noted State Item) Item) :
    (world.leave worker).plain = world.plain.leave worker := by
  simp only [leave, ← cutOffPlain]
  rfl

theorem World.handOverPlain (number : Nat) (item : Item) (progress : Feed.Progress)
    (world : World (Noted State Item) Item) :
    (world.handOver worker number item progress).plain =
      world.plain.handOver worker number item progress := by
  cases progress <;> rfl

/-- The list has no influence on what the worker does. -/
theorem World.proceedPlain (source : Source State Item) (worker : Worker Item)
    (world : World (Noted State Item) Item) :
    (world.proceed source.noting worker).map World.plain = world.plain.proceed source worker := by
  have leaves := world.leavePlain worker
  unfold proceed
  cases phase : worker.phase with
  | opening =>
      have answer : source.noting.completion? world.clock world.source =
          (source.completion? world.clock world.source.state).map fun (outcome, state) =>
            (outcome, ⟨state, world.source.calls ++ [.answered outcome]⟩) := rfl
      have plainly : world.plain.source = world.source.state := rfl
      have clock : world.plain.clock = world.clock := rfl
      rw [answer, plainly, clock]
      cases source.completion? world.clock world.source.state with
      | none => rfl
      | some result =>
          obtain ⟨outcome, state⟩ := result
          cases outcome <;> rfl
  | pausing due =>
      simp only [apply_ite (Option.map World.plain), Option.map_some, Option.map_none, leaves]
      rfl
  | watching number =>
      have answer : source.noting.delivery? world.clock number world.source =
          (source.delivery? world.clock number world.source.state).map fun (delivery, state) =>
            (delivery, ⟨state, world.source.calls ++ (delivery.call? number).toList⟩) := rfl
      have plainly : world.plain.source = world.source.state := rfl
      have clock : world.plain.clock = world.clock := rfl
      simp only [apply_ite (Option.map World.plain), Option.map_some, leaves]
      rw [answer, plainly, clock]
      cases source.delivery? world.clock number world.source.state with
      | none => rfl
      | some result =>
          obtain ⟨delivery, state⟩ := result
          cases delivery <;> rfl
  | handing number item =>
      simp only [apply_ite (Option.map World.plain), Option.map_some, leaves, handOverPlain]
      rfl
  | blocked number item ticket =>
      simp only [apply_ite (Option.map World.plain), Option.map_some, leaves]
      have channel : world.plain.channel = world.channel := rfl
      rw [channel]
      rcases world.channel.poll ticket with ⟨progress, channel⟩
      cases progress <;> rfl
  | leaving held => cases held <;> rfl
  | created | ending | finished | stopped => rfl

theorem World.stopPlain (source : Source State Item) (worker : Worker Item)
    (world : World (Noted State Item) Item) :
    (world.stop source.noting worker).plain = world.plain.stop source worker := by
  simp only [stop, ← cutOffPlain]
  rfl

theorem World.stepPlain (source : Source State Item) (world : World (Noted State Item) Item) :
    (world.step source.noting).map World.plain = world.plain.step source := by
  unfold step
  have employed : world.plain.worker = world.worker := rfl
  rw [employed]
  cases world.worker with
  | none => rfl
  | some worker =>
      simp only [apply_ite (Option.map World.plain), Option.map_some, stopPlain, proceedPlain]

/-- Whatever happens to a source happens to the one that notes. -/
theorem Outside.noted {later : World State Item} (moved : Outside remote world.plain later) :
    ∃ next, Outside (Noting remote) world next ∧ next.plain = later := by
  cases moved with
  | @serve state may =>
      exact ⟨{ world with source := { world.source with state } }, .serve ⟨may, rfl⟩, rfl⟩
  | elapse time => exact ⟨_, .elapse time, rfl⟩
  | @take item next taken =>
      obtain ⟨channel, found, rfl⟩ := World.takeCases taken
      have taken : world.take? = some (item, { world with
          channel, history := (world.clock, .taken item) :: world.history }) := by
        have found : world.channel.take? = some (item, channel) := found
        simp [World.take?, found]
      exact ⟨_, .take taken, rfl⟩
  | leave => exact ⟨_, .leave, rfl⟩
  | act allowed foreign => exact ⟨_, .act allowed foreign, rfl⟩
  | log events => exact ⟨_, .log events, rfl⟩
  | count call => exact ⟨_, .count call, rfl⟩

theorem Move.noted {later : World State Item} (move : Move source remote world.plain later) :
    ∃ next, Move source.noting (Noting remote) world next ∧ next.plain = later := by
  cases move with
  | work stepped =>
      rw [← World.stepPlain, Option.map_eq_some_iff] at stepped
      obtain ⟨next, stepped, same⟩ := stepped
      exact ⟨next, .work stepped, same⟩
  | outside moved =>
      obtain ⟨next, moved, same⟩ := moved.noted
      exact ⟨next, .outside moved, same⟩

/-- Every run of a worker can be overheard. -/
theorem Reachable.overheard {world : World State Item}
    (reached : Reachable source remote capacity world) :
    ∃ noted : World (Noted State Item) Item,
      Overheard source remote capacity noted ∧ noted.plain = world := by
  induction reached with
  | @start idle fresh coordinator topic policy =>
      let quiet : World (Noted State Item) Item :=
        { idle with source := { state := idle.source } }
      have heard : Overheard source remote capacity (quiet.spawn topic policy capacity) :=
        .start fresh rfl coordinator topic policy
      exact ⟨_, heard, rfl⟩
  | next _ move inductionHypothesis =>
      obtain ⟨noted, heard, rfl⟩ := inductionHypothesis
      obtain ⟨next, moved, same⟩ := move.noted
      exact ⟨next, .next heard moved, same⟩

end Plain

end NodeBridge.Observer
