import NodeBridge.Proofs.Heads.Client
import NodeBridge.Proofs.Heads.Closing

/-
This file follows a session that waits for its observer on a clock that jumps between timers.
Every jump before the end comes closer to the deadline of the attempt under way.
-/

namespace NodeBridge.Heads

open Observer

variable {pubsub : Bool} {limit : Duration} {last : Nat} {scene : Scene}

/-- Both timers of an attempt under way are still to come, and the first of them is not later
than its deadline. -/
theorem dueOfAwaited {holder : Holder} {now deadline : Nat}
    (found : holder.attempt.bind Holder.deadline? = some deadline) (ahead : now < deadline)
    (client : ∀ due, holder.client.due? = some due → now < due) :
    ∃ due, holder.due? = some due ∧ now < due ∧ due ≤ deadline := by
  unfold Holder.due?
  rw [found]
  cases next : holder.client.due? with
  | none => exact ⟨deadline, rfl, ahead, Nat.le_refl _⟩
  | some due =>
      exact ⟨min deadline due, rfl, Nat.lt_min.mpr ⟨ahead, client due next⟩, Nat.min_le_left _ _⟩

/-- The scene rests: neither the worker nor the client has anything to do at this time. -/
structure Resting (pubsub : Bool) (limit : Duration) (now : Nat) (scene : Scene) : Prop where
  clock : scene.clock = now
  waits : scene.step (source pubsub limit) = none
  client : ∀ due, scene.source.client.due? = some due → now < due

namespace Closing

/-- The source gets its turn, and then the client has nothing to do at this moment. -/
theorem attend (pubsub : Bool) (closing : Closing limit last scene) :
    Closing limit last (scene.attend (source pubsub limit)) ∧
      ∀ due, (scene.attend (source pubsub limit)).source.client.due? = some due →
        scene.clock < due :=
  ⟨closing.aside rfl rfl rfl ⟨_, rfl⟩, fun _ found => Client.dueServe found⟩

/-- A scene comes to rest in no time, because only few steps of the worker are left. -/
theorem settleFor {count : Nat} (pubsub : Bool) (closing : Closing limit last scene)
    (fuel : stepsLeft scene < count) :
    Closing limit last (scene.settleFor (source pubsub limit) count) ∧
      Resting pubsub limit scene.clock (scene.settleFor (source pubsub limit) count) := by
  induction count generalizing scene with
  | zero => omega
  | succ count inductionHypothesis =>
      obtain ⟨attended, ahead⟩ := closing.attend pubsub
      rw [World.settleFor]
      split
      case h_1 waits =>
        rw [World.advanceOnce, Option.or_eq_none_iff] at waits
        exact ⟨attended, rfl, waits.2, ahead⟩
      case h_2 next advanced =>
        rw [World.advanceOnce, Option.or_eq_some_iff] at advanced
        rcases advanced with stepped | ⟨_, stepped⟩
        · obtain ⟨closingNext, fewer, clock, _⟩ := closing.work stepped
          exact clock ▸ inductionHypothesis closingNext (by omega)
        · obtain ⟨closingNext, fewer, clock, _⟩ := attended.work stepped
          have fewer : stepsLeft next < stepsLeft scene := fewer
          have clock : next.clock = scene.clock := clock
          exact clock ▸ inductionHypothesis closingNext (by omega)

theorem settle (pubsub : Bool) (closing : Closing limit last scene) :
    Closing limit last (scene.settle (source pubsub limit)) ∧
      Resting pubsub limit scene.clock (scene.settle (source pubsub limit)) := by
  have few := stepsLeftLe scene
  exact closing.settleFor pubsub (by omega)

/-- While something is outstanding the next timer comes before the attempt has to end. -/
theorem timer (closing : Closing limit last scene)
    (resting : Resting pubsub limit scene.clock scene)
    (outstanding : scene.coordinator.outstanding ≠ 0) :
    ∃ due, scene.timer? (source pubsub limit) = some due ∧ scene.clock < due ∧ due ≤ last ∧
      (∀ other, scene.source.attempt.bind Holder.deadline? = some other → due ≤ other) ∧
      Closing limit last (scene.jump due) := by
  obtain ⟨worker, present, going, _⟩ := closing.going outstanding
  obtain ⟨opening, deadline, found, before, bound⟩ := closing.rests present resting.waits going
  obtain ⟨due, next, after, earlier⟩ := dueOfAwaited found before resting.client
  have timer : scene.timer? (source pubsub limit) = some due := by
    simp only [World.timer?, present, Option.map_some, opening]
    exact next
  have exact : ∀ other, scene.source.attempt.bind Holder.deadline? = some other → due ≤ other := by
    intro other same
    rw [found] at same
    exact Option.some.inj same ▸ earlier
  exact ⟨due, timer, after, Nat.le_trans earlier bound, exact,
    (closing.jump present resting.waits going exact).2⟩

/-- Whoever waits longer than the attempt under way may take sees the end of the worker. -/
theorem waitFor {count deadline : Nat} {span : Duration} (pubsub : Bool)
    (closing : Closing limit last scene)
    (longer : ∀ worker, scene.worker = some worker → last < deadline)
    (fuel : last - scene.clock < count) :
    (scene.waitFor (source pubsub limit) count deadline span).1 = true ∧
      (scene.waitFor (source pubsub limit) count deadline span).2.clock ≤ last := by
  induction count generalizing scene with
  | zero => omega
  | succ count inductionHypothesis =>
      have inTime := closing.inTime
      rw [World.waitFor]
      by_cases nobody : scene.coordinator.outstanding = 0
      · rw [if_pos nobody]
        exact ⟨rfl, inTime⟩
      · obtain ⟨worker, present, _⟩ := closing.going nobody
        have ahead : last < deadline := longer worker present
        obtain ⟨settled, resting⟩ := closing.settle pubsub
        have early : ¬ deadline ≤ scene.clock := by omega
        rw [if_neg nobody, if_neg early]
        dsimp only
        split
        case isTrue => exact ⟨rfl, settled.inTime⟩
        case isFalse outstanding =>
          have clock := resting.clock
          obtain ⟨due, timer, after, bound, _, jumped⟩ :=
            settled.timer (clock.symm ▸ resting) outstanding
          have first : min due deadline = due := Nat.min_eq_left (by omega)
          have moved : ((scene.settle (source pubsub limit)).jump due).clock = due :=
            Nat.max_eq_right (Nat.le_of_lt after)
          -- The clock moves with every round and never beyond the last moment.
          rw [timer, Option.getD_some, first]
          exact inductionHypothesis jumped (fun _ _ => ahead) (by omega)

end Closing

end NodeBridge.Heads
