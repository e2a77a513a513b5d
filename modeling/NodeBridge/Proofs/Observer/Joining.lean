import NodeBridge.Proofs.Observer.Announcement
import NodeBridge.Proofs.Observer.Crew
import NodeBridge.Proofs.Observer.Delivery
import NodeBridge.Proofs.Shutdown.Waiting
import Mathlib.Data.Bool.Count

/-
This file shows what a wait for the workers of a crew is good for.
The token of a worker ends with the last thing that the worker does, so when a wait succeeds all
workers have come to their end and left nothing behind.
-/

namespace NodeBridge.Observer

open Shutdown (Action Coordinator Waiter)

variable {crew later final : Crew} {index : Nat} {post : Post}

/-- The end of the worker was announced, and what it held is closed. -/
structure TornDown {State Item : Type} (worker : Worker Item)
    (world : World (Noted State Item) Item) : Prop where
  /-- The status says that the worker ends, and it was published. -/
  announced : worker.status = .terminating ∧ .terminating ∈ world.published
  /-- The source was called exactly as the chronicle says. -/
  told : world.source.calls = world.chronicle.filterMap (Happening.call? worker.topic)
  /-- Every subscription that was opened has failed or was closed. -/
  closed : heldAfter world.chronicle = []

/-- A worker that has come to its end left nothing behind and does nothing any more. -/
structure Gone (crew : Crew) (post : Post) : Prop where
  /-- The worker was torn down before it came to its end. -/
  torn : ∃ worker, post.world.worker = some worker ∧ worker.phase = .finished ∧
    TornDown worker (crew.view post)
  /-- No source can bring the worker to do anything. -/
  idle : ∀ other, (crew.view post).step other = none

/-- A worker that has left its loop and closed what it held is torn down. -/
theorem Overheard.tornDown {State Item : Type} {source : Source State Item}
    {remote : State → State → Prop} {capacity : Nat} {world : World (Noted State Item) Item}
    {worker : Worker Item} (heard : Overheard source remote capacity world)
    (present : world.worker = some worker) (left : worker.phase.hasLeft = true)
    (unheld : worker.phase.held? = none) : TornDown worker world := by
  have announced := heard.reachable.announced present
  have held := (heard.reachable.owned present).held
  have path := announced.path
  rw [left] at path
  rw [unheld] at held
  refine ⟨⟨((heard.reachable.owned present).announced left).1, ?_⟩, heard.told present, held⟩
  rw [path]
  exact List.mem_append_right _ (List.mem_singleton_self _)

theorem CrewMove.coordinatorActs (staffed : Staffed crew) (move : CrewMove crew later) :
    later.coordinator = crew.coordinator ∨
      ∃ action, later.coordinator = (crew.coordinator.perform crew.clock action).1 := by
  cases move with
  | spawn => exact .inr ⟨.issue, rfl⟩
  | @work index post next found stepped =>
      obtain ⟨worker, present, unordered⟩ := (staffed.stories index post found).reachable.staffed
      obtain ⟨added, step⟩ := World.stepCases present unordered stepped
      rcases step.coordinatorEnds with same | ⟨_, _, ended⟩
      · exact .inl same
      · exact .inr ⟨.finish worker.token, ended⟩
  | aside _ _ _ coordinator => exact .inl coordinator
  | act => exact .inr ⟨_, rfl⟩
  | elapse => exact .inl rfl

/-- A token that was released is never held again. -/
theorem CrewRun.released (reached : crew.Reachable) (run : CrewRun crew final) {token : Nat}
    (ended : crew.coordinator.tokens[token]? = some false) :
    final.coordinator.tokens[token]? = some false := by
  induction run with
  | refl => exact ended
  | tail run move inductionHypothesis =>
      rcases move.coordinatorActs (reached.run run).staffed with same | ⟨action, acted⟩
      · exact same ▸ inductionHypothesis
      · exact acted ▸ Coordinator.endedKept _ action inductionHypothesis

/-- Whoever waits for all returns with success only when no token is held. -/
theorem CrewMove.returns (staffed : Staffed crew) (move : CrewMove crew later)
    {waiter next : Waiter} (before : crew.coordinator.waiters[index]? = some waiter)
    (after : later.coordinator.waiters[index]? = some next)
    (unreturned : waiter.phase ≠ .returned true) (returned : next.phase = .returned true) :
    later.coordinator.outstanding = 0 := by
  rcases move.coordinatorActs staffed with same | ⟨action, acted⟩
  · rw [same] at after
    obtain rfl := Option.some.inj (before.symm.trans after)
    exact absurd returned unreturned
  · rw [acted] at after ⊢
    exact Coordinator.returnsWithout before after unreturned returned

namespace Staffed

/-- The token of a worker is held exactly until the worker is over. -/
theorem held (staffed : Staffed crew) (found : crew.posts[index]? = some post)
    {worker : Worker post.Item} (present : post.world.worker = some worker) :
    crew.coordinator.tokens[worker.token]? = some (!worker.phase.isOver) :=
  (staffed.stories index post found).reachable.tokenHeld present

/-- A worker without its token is gone. -/
theorem gone (staffed : Staffed crew) (found : crew.posts[index]? = some post)
    {worker : Worker post.Item} (present : post.world.worker = some worker)
    (isOver : worker.phase.isOver = true) : Gone crew post := by
  have heard := staffed.stories index post found
  have finished := (heard.reachable.endedBySignal present isOver).1
  have torn : TornDown worker (crew.view post) :=
    heard.tornDown present (Phase.leftOfOver isOver) (by rw [finished]; rfl)
  refine ⟨⟨worker, present, finished, torn⟩, fun other => ?_⟩
  exact World.stepOfFinished present (heard.reachable.unordered present) finished

end Staffed

/-- Nothing has happened to a worker since then but that its items were taken. -/
structure Untouched (post : Post) (world : post.Scene) : Prop where
  worker : world.worker = post.world.worker
  calls : world.source.calls = post.world.source.calls
  /-- The feed was only emptied. -/
  drained : world.channel.buffer.toList <:+ post.world.channel.buffer.toList
  taken : ∃ items : List post.Item, world.chronicle = post.world.chronicle ++ items.map .taken

theorem Untouched.refl (post : Post) : Untouched post post.world :=
  ⟨rfl, rfl, List.suffix_rfl, [], (List.append_nil _).symm⟩

/-- Whatever is done to a worker by others, only its items are taken. -/
theorem Outside.untouched {next : post.Scene} {remote : post.State → post.State → Prop}
    (moved : Outside (Noting remote) (crew.view post) next) : Untouched post next :=
  ⟨moved.workerSame, moved.calls, moved.drains, moved.chronicleAdds⟩

theorem Untouched.trans {middle last : post.Scene} (before : Untouched post middle)
    (after : Untouched { post with world := middle } last) : Untouched post last := by
  obtain ⟨items, taken⟩ := before.taken
  obtain ⟨more, added⟩ := after.taken
  refine ⟨after.worker.trans before.worker, after.calls.trans before.calls,
    after.drained.trans before.drained, items ++ more, ?_⟩
  rw [List.map_append, ← List.append_assoc, ← taken]
  exact added

/-- Whatever happens to a crew, a worker that is over only has its items taken. -/
theorem CrewMove.leaves (staffed : Staffed crew) (move : CrewMove crew later)
    (found : crew.posts[index]? = some post) {worker : Worker post.Item}
    (present : post.world.worker = some worker) (finished : worker.phase = .finished) :
    ∃ world, later.posts[index]? = some { post with world } ∧ Untouched post world := by
  have unordered := (staffed.stories index post found).reachable.unordered present
  have elsewhere {other : Nat} {neighbour : Post} {next : neighbour.Scene}
      (apart : other ≠ index) : (crew.place other neighbour next).posts[index]? = some post :=
    (List.getElem?_set_ne apart).trans found
  cases move with
  | spawn =>
      have inside := (List.getElem?_eq_some_iff.mp found).1
      exact ⟨post.world, (List.getElem?_append_left inside).trans found, .refl post⟩
  | @work other neighbour next there stepped =>
      by_cases here : other = index
      · subst here
        obtain rfl := Option.some.inj (there.symm.trans found)
        have isOver : (crew.view neighbour).step neighbour.source.noting = none :=
          World.stepOfFinished present unordered finished
        rw [isOver] at stepped
        contradiction
      · exact ⟨post.world, elsewhere here, .refl post⟩
  | @aside other neighbour next there moved =>
      by_cases here : other = index
      · subst here
        obtain rfl := Option.some.inj (there.symm.trans found)
        have inside := (List.getElem?_eq_some_iff.mp found).1
        exact ⟨next, List.getElem?_set_self inside, moved.untouched⟩
      · exact ⟨post.world, elsewhere here, .refl post⟩
  | act | elapse => exact ⟨post.world, found, .refl post⟩

theorem CrewRun.leaves (reached : crew.Reachable) (run : CrewRun crew final)
    (found : crew.posts[index]? = some post) {worker : Worker post.Item}
    (present : post.world.worker = some worker) (finished : worker.phase = .finished) :
    ∃ world, final.posts[index]? = some { post with world } ∧ Untouched post world := by
  induction run with
  | refl => exact ⟨post.world, found, .refl post⟩
  | tail run move inductionHypothesis =>
      obtain ⟨world, there, untouched⟩ := inductionHypothesis
      obtain ⟨next, last, since⟩ :=
        move.leaves (reached.run run).staffed there (untouched.worker.trans present) finished
      exact ⟨next, last, untouched.trans since⟩

/-- As many tokens are outstanding as workers are not over. -/
theorem Staffed.going (staffed : Staffed crew) :
    (crew.posts.filterMap Post.going?).length ≤ crew.coordinator.outstanding := by
  have own {post : Post} {token : Nat} (going : post.going? = some token) :
      post.token? = some token := by
    obtain ⟨worker, kept, same⟩ := Option.map_eq_some_iff.mp going
    exact Option.map_eq_some_iff.mpr ⟨worker, (Option.filter_eq_some_iff.mp kept).1, same⟩
  refine staffed.coordinator.balanced.atLeast ?_ ?_
  · refine List.pairwise_filterMap.mpr ((List.pairwise_map.mp staffed.tokens).imp ?_)
    intro first second apart token has other hasOther same
    exact apart (by rw [own has, own hasOther, same])
  · intro token member
    obtain ⟨post, inside, going⟩ := List.mem_filterMap.mp member
    obtain ⟨index, found⟩ := List.mem_iff_getElem?.mp inside
    obtain ⟨worker, kept, rfl⟩ := Option.map_eq_some_iff.mp going
    obtain ⟨present, unfinished⟩ := Option.filter_eq_some_iff.mp kept
    rw [staffed.held found present]
    exact congrArg some unfinished

/-- This is what those who wait for the workers of a crew can rely on. -/
structure Joined (crew : Crew) : Prop where
  /-- The tokens of different workers are different. -/
  own : (crew.posts.map Post.token?).Nodup
  /-- A token is held from the spawn of its worker until the worker is gone, and then never more. -/
  counted : ∀ post ∈ crew.posts, ∃ worker, post.world.worker = some worker ∧
    (worker.phase ≠ .finished ∧ crew.coordinator.tokens[worker.token]? = some true ∨
      Gone crew post ∧ ∀ final, CrewRun crew final →
        final.coordinator.tokens[worker.token]? = some false)
  /-- All workers that are not gone are outstanding. -/
  outstanding : (crew.posts.filterMap Post.going?).length ≤ crew.coordinator.outstanding
  /-- Every token is outstanding or released, and released once. -/
  balanced : crew.coordinator.Balanced
  /-- A step ends the token of its worker or no token, and a worker whose token ends with this step
  was torn down before it. -/
  last : ∀ (index : Nat) post next, crew.posts[index]? = some post →
    (crew.view post).step post.source.noting = some next →
    next.coordinator = crew.coordinator ∨
      ∃ worker, post.world.worker = some worker ∧
        crew.coordinator.tokens[worker.token]? = some true ∧
        TornDown worker (crew.view post) ∧
        next.coordinator = crew.coordinator.finish worker.token
  /-- When a wait succeeds, all tokens are released, all workers are gone, and nothing happens to
  them any more but that their items are taken. -/
  joined : ∀ later (index : Nat) waiter next, CrewMove crew later →
    crew.coordinator.waiters[index]? = some waiter →
    later.coordinator.waiters[index]? = some next →
    waiter.phase ≠ .returned true → next.phase = .returned true →
    later.coordinator.released = later.coordinator.tokens.length ∧
    ∀ (place : Nat) post, later.posts[place]? = some post → Gone later post ∧
      ∀ final, CrewRun later final → ∃ world, final.posts[place]? = some { post with world } ∧
        Gone final { post with world } ∧ Untouched post world

/-- A wait for the workers succeeds only when every one of them is torn down. -/
theorem joinIsComplete (reached : crew.Reachable) : Joined crew := by
  have staffed := reached.staffed
  refine ⟨staffed.tokens, ?_, staffed.going, staffed.coordinator.balanced, ?_, ?_⟩
  · intro post member
    obtain ⟨index, found⟩ := List.mem_iff_getElem?.mp member
    obtain ⟨worker, present, _⟩ := (staffed.stories index post found).reachable.staffed
    have held := staffed.held found present
    refine ⟨worker, present, ?_⟩
    cases isOver : worker.phase.isOver with
    | false =>
        rw [isOver] at held
        refine .inl ⟨?_, held⟩
        intro finished
        rw [finished] at isOver
        cases isOver
    | true =>
        rw [isOver] at held
        exact .inr ⟨staffed.gone found present isOver, fun final run => run.released reached held⟩
  · intro index post next found stepped
    have heard := staffed.stories index post found
    obtain ⟨worker, present, unordered⟩ := heard.reachable.staffed
    obtain ⟨added, step⟩ := World.stepCases present unordered stepped
    rcases step.coordinatorEnds with same | ⟨phase, _, ended⟩
    · exact .inl same
    · have token := staffed.held found present
      rw [step.going] at token
      have torn : TornDown worker (crew.view post) :=
        heard.tornDown present (by rw [phase]; rfl) (by rw [phase]; rfl)
      exact .inr ⟨worker, present, token, torn, ended⟩
  · intro later index waiter next move before after unreturned returned
    have reachedLater := reached.next move
    have staffedLater := reachedLater.staffed
    have nobody := move.returns staffed before after unreturned returned
    have balanced := staffedLater.coordinator.balanced
    have none : later.coordinator.tokens.count true = 0 := balanced.outstanding.symm.trans nobody
    refine ⟨?_, ?_⟩
    · have all := List.count_true_add_count_false later.coordinator.tokens
      rw [balanced.released]
      omega
    · intro place post found
      have reachedPost := (staffedLater.stories place post found).reachable
      obtain ⟨worker, present, _⟩ := reachedPost.staffed
      have isOver : worker.phase.isOver = true := by
        have held := staffedLater.held found present
        cases isOver : worker.phase.isOver with
        | true => rfl
        | false =>
            rw [isOver] at held
            exact absurd (List.mem_of_getElem? held) (List.count_eq_zero.mp none)
      have finished := (reachedPost.endedBySignal present isOver).1
      refine ⟨staffedLater.gone found present isOver, ?_⟩
      intro final run
      obtain ⟨world, there, untouched⟩ := run.leaves reachedLater found present finished
      have stays := untouched.worker.trans present
      exact ⟨world, there, (reachedLater.run run).staffed.gone there stays isOver, untouched⟩

/-- A worker gets its turn for one step. -/
def Crew.turn (index : Nat) (crew : Crew) : Crew :=
  match crew.posts[index]? with
  | none => crew
  | some post =>
      match (crew.view post).step post.source.noting with
      | none => crew
      | some next => crew.place index post next

theorem Crew.Reachable.turn (reached : crew.Reachable) (index : Nat) :
    (crew.turn index).Reachable := by
  unfold Crew.turn
  split
  · exact reached
  case h_2 post found =>
    split
    · exact reached
    case h_2 next stepped => exact .next reached (.work found stepped)

/-- Anybody may do what does not end a token. -/
theorem Crew.Reachable.act {action : Action} (reached : crew.Reachable)
    (allowed : crew.coordinator.Allows action) (keeps : ∀ token, action ≠ .finish token) :
    (crew.act action).Reachable :=
  .next reached (.act allowed fun _ _ token _ => keeps token)

/-- This post has a source that lets every attempt succeed. -/
def vacancy : Post where
  State := Script Nat
  Item := Nat
  source := Script.source
  remote := Eq
  capacity := 1
  world := { source := { state := {} } }

/-- Two workers are there. -/
def hired : Crew :=
  ({} : Crew).spawn vacancy "heads" .immediate |>.spawn vacancy "tails" .immediate

/-- One of them is subscribed when somebody waits for both and the signal is given. -/
def summoned : Crew :=
  hired.turn 0 |>.turn 0 |>.act (.startWait none) |>.act (.look 0) |>.act .trigger

/-- The other one subscribes and ends before the first one does. -/
def dismissed : Crew :=
  let other := summoned.turn 1 |>.turn 1 |>.turn 1 |>.turn 1 |>.turn 1
  other.turn 0 |>.turn 0 |>.turn 0

theorem hiredReachable : hired.Reachable := by
  have first : (({} : Crew).spawn vacancy "heads" .immediate).Reachable :=
    .next (.start .new rfl) (.spawn "heads" .immediate rfl rfl rfl)
  exact .next first (.spawn "tails" .immediate rfl rfl rfl)

theorem dismissedReachable : dismissed.Reachable := by
  have waiting : (((hired.turn 0).turn 0).act (.startWait none)).Reachable :=
    ((hiredReachable.turn 0).turn 0).act rfl nofun
  have looking : ((((hired.turn 0).turn 0).act (.startWait none)).act (.look 0)).Reachable :=
    waiting.act trivial nofun
  have summons : summoned.Reachable := looking.act rfl nofun
  have other := ((((summons.turn 1).turn 1).turn 1).turn 1).turn 1
  exact ((other.turn 0).turn 0).turn 0

/-- The wait succeeds, and both workers are gone. -/
theorem joinIsCompleteDismissed : (dismissed.act (.look 0)).coordinator.released = 2 ∧
    ∀ (place : Nat) post, (dismissed.act (.look 0)).posts[place]? = some post →
      Gone (dismissed.act (.look 0)) post := by
  have move : CrewMove dismissed (dismissed.act (.look 0)) := .act trivial fun _ _ _ _ => nofun
  have joined := (joinIsComplete dismissedReachable).joined _ 0 _ _ move rfl rfl nofun rfl
  exact ⟨joined.1, fun place post found => (joined.2 place post found).1⟩

end NodeBridge.Observer
