import NodeBridge.Proofs.Observer.Run

/-
This file writes the runs of a worker down as schedules.
A schedule lists the turns of the worker and all that others do in their order, and it decides
everything that follows, so that two runs can be compared entry by entry.
-/

namespace NodeBridge.Observer

open Shutdown (Action Coordinator)

variable {State Item : Type}

/-- Either the worker gets a turn or somebody else does something. -/
inductive Occurrence (State : Type) where
  | turn
  | serve (state : State)
  | elapse (time : Nat)
  | act (action : Action)
  | log (events : List Event)
  | count (call : String)
  | take
  | leave

/-- The consumer takes items and may leave the feed for good. -/
def Occurrence.ofConsumer : Occurrence State → Bool
  | take => true
  | leave => true
  | _ => false

instance (coordinator : Coordinator) (action : Action) :
    Decidable (coordinator.Allows action) :=
  match action with
  | .issue => inferInstanceAs (Decidable (coordinator.isGone = false))
  | .trigger => inferInstanceAs (Decidable (coordinator.isGone = false))
  | .startWait _ => inferInstanceAs (Decidable (coordinator.isGone = false))
  | .finish _ => isTrue trivial
  | .look _ => isTrue trivial
  | .wakeDue => isTrue trivial
  | .drop => isTrue trivial

namespace World

/-- Nobody ends the token of the worker for it. -/
def permits (action : Action) (world : World State Item) : Bool :=
  decide (world.coordinator.Allows action) &&
    world.worker.all fun worker => decide (action ≠ .finish worker.token)

/-- Whatever is not possible at its moment has no effect. -/
def undergo (source : Source State Item) (world : World State Item) :
    Occurrence State → World State Item
  | .turn => (world.step source).getD world
  | .serve state => { world with source := state }
  | .elapse time => world.jump time
  | .act action => if world.permits action then world.act action else world
  | .log events => { world with events }
  | .count call => { world with metrics := world.metrics.increment (.callFailures call) }
  | .take => (world.take?.map Prod.snd).getD world
  | .leave => world.dropFeed

/-- A schedule takes place from its first entry to its last. -/
def live (source : Source State Item) (world : World State Item)
    (schedule : List (Occurrence State)) : World State Item :=
  schedule.foldl (undergo source) world

end World

/-- The same schedule without a consumer. -/
def unattended (schedule : List (Occurrence State)) : List (Occurrence State) :=
  schedule.filter fun occurrence => !occurrence.ofConsumer

variable {source : Source State Item} {remote : State → State → Prop} {capacity : Nat}
  {world next final : World State Item} {action : Action}

theorem World.permitsIff : world.permits action = true ↔ world.coordinator.Allows action ∧
    ∀ worker, world.worker = some worker → action ≠ .finish worker.token := by
  cases present : world.worker <;> simp [permits, present]

/-- What is not a turn of the worker is a move of somebody else, if it has an effect at all. -/
theorem World.undergoAside (source : Source State Item) {occurrence : Occurrence State}
    (aside : occurrence ≠ .turn) (world : World State Item) :
    world.undergo source occurrence = world ∨
      Outside (fun _ _ => True) world (world.undergo source occurrence) := by
  cases occurrence with
  | turn => contradiction
  | serve => exact .inr (.serve trivial)
  | elapse time => exact .inr (.elapse time)
  | log events => exact .inr (.log events)
  | count call => exact .inr (.count call)
  | leave => exact .inr .leave
  | act action =>
      rw [undergo]
      split
      case isTrue permitted =>
        obtain ⟨allowed, foreign⟩ := permitsIff.mp permitted
        exact .inr (.act allowed foreign)
      case isFalse => exact .inl rfl
  | take =>
      rw [undergo]
      cases taken : world.take? with
      | none => exact .inl rfl
      | some pair => exact .inr (.take taken)

/-- Every move of a run can be written down. -/
theorem Move.scheduled (move : Move source remote world next) :
    ∃ occurrence, world.undergo source occurrence = next := by
  cases move with
  | work stepped => exact ⟨.turn, by rw [World.undergo, stepped, Option.getD_some]⟩
  | outside moved =>
      cases moved with
      | serve => exact ⟨.serve _, rfl⟩
      | elapse time => exact ⟨.elapse time, rfl⟩
      | take taken =>
          exact ⟨.take, by rw [World.undergo, taken, Option.map_some, Option.getD_some]⟩
      | leave => exact ⟨.leave, rfl⟩
      | act allowed foreign =>
          exact ⟨.act _, by rw [World.undergo, if_pos (World.permitsIff.mpr ⟨allowed, foreign⟩)]⟩
      | log events => exact ⟨.log events, rfl⟩
      | count call => exact ⟨.count call, rfl⟩

/-- Every run has a schedule. -/
theorem Run.scheduled (run : Run source remote world final) :
    ∃ schedule, world.live source schedule = final := by
  induction run with
  | refl => exact ⟨[], rfl⟩
  | tail _ move inductionHypothesis =>
      obtain ⟨schedule, rfl⟩ := inductionHypothesis
      obtain ⟨occurrence, undergone⟩ := move.scheduled
      exact ⟨schedule ++ [occurrence], by
        rw [World.live, List.foldl_append, List.foldl_cons, List.foldl_nil]; exact undergone⟩

end NodeBridge.Observer
