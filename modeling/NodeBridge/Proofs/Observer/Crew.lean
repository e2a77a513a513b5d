import NodeBridge.Proofs.Observer.Calls
import Mathlib.Data.List.Nodup

/-
This file lets any number of workers share one coordinator and one clock.
Each of them lives in its own world as if the others were only part of its surroundings, its source
notes all calls, and no two of them have the same token.
-/

namespace NodeBridge.Observer

open Shutdown (Action Coordinator)

/-- A worker has a post with a source, a feed and a log of its own. -/
structure Post where
  {State Item : Type}
  source : Source State Item
  remote : State → State → Prop
  capacity : Nat
  world : World (Noted State Item) Item

/-- The source of a post notes all calls. -/
abbrev Post.Scene (post : Post) : Type := World (Noted post.State post.Item) post.Item

/-- The token of a worker is known from its spawn on. -/
def Post.token? (post : Post) : Option Nat := post.world.worker.map Worker.token

/-- A worker that is not over has its token still. -/
def Post.going? (post : Post) : Option Nat :=
  (post.world.worker.filter fun worker => !worker.phase.isOver).map Worker.token

/-- All workers share the clock and the coordinator. -/
structure Crew where
  clock : Nat := 0
  coordinator : Coordinator := {}
  posts : List Post := []

namespace Crew

/-- A post sees the clock and the coordinator of all. -/
def view (crew : Crew) (post : Post) : post.Scene :=
  { post.world with clock := crew.clock, coordinator := crew.coordinator }

/-- What changes for a post may change the clock and the coordinator of all. -/
def place (crew : Crew) (index : Nat) (post : Post) (next : post.Scene) : Crew :=
  { clock := next.clock
    coordinator := next.coordinator
    posts := crew.posts.set index { post with world := next } }

/-- A new worker joins at a post without one. -/
def spawn (post : Post) (topic : String) (policy : RetryPolicy) (crew : Crew) : Crew :=
  let world := (crew.view post).spawn topic policy post.capacity
  { crew with coordinator := world.coordinator, posts := crew.posts ++ [{ post with world }] }

def act (action : Action) (crew : Crew) : Crew :=
  { crew with coordinator := (crew.coordinator.perform crew.clock action).1 }

end Crew

/-- A worker joins or takes a step, something happens at its post, or somebody acts on the
coordinator, and the tokens of the workers are in their own hands. -/
inductive CrewMove (crew : Crew) : Crew → Prop where
  | spawn {post : Post} (topic : String) (policy : RetryPolicy)
      (present : crew.coordinator.isGone = false) (fresh : post.world.history = [])
      (uncalled : post.world.source.calls = []) :
      CrewMove crew (crew.spawn post topic policy)
  | work {index : Nat} {post : Post} {next : post.Scene}
      (found : crew.posts[index]? = some post)
      (stepped : (crew.view post).step post.source.noting = some next) :
      CrewMove crew (crew.place index post next)
  | aside {index : Nat} {post : Post} {next : post.Scene}
      (found : crew.posts[index]? = some post)
      (moved : Outside (Noting post.remote) (crew.view post) next) (clock : next.clock = crew.clock)
      (coordinator : next.coordinator = crew.coordinator) :
      CrewMove crew (crew.place index post next)
  | act {action : Action} (allowed : crew.coordinator.Allows action)
      (foreign : ∀ post ∈ crew.posts, ∀ token, post.token? = some token →
        action ≠ .finish token) : CrewMove crew (crew.act action)
  | elapse (time : Nat) : CrewMove crew { crew with clock := max crew.clock time }

abbrev CrewRun : Crew → Crew → Prop := Relation.ReflTransGen CrewMove

/-- A crew begins without workers, around a coordinator in any use. -/
inductive Crew.Reachable : Crew → Prop where
  | start {crew : Crew} (coordinator : crew.coordinator.Reachable) (unstaffed : crew.posts = []) :
      Reachable crew
  | next {crew later : Crew} (reached : Reachable crew) (move : CrewMove crew later) :
      Reachable later

/-- Every worker can tell its story as if it were alone, and no two have the same token. -/
structure Staffed (crew : Crew) : Prop where
  coordinator : crew.coordinator.Reachable
  stories : ∀ (index : Nat) post, crew.posts[index]? = some post →
    Overheard post.source post.remote post.capacity (crew.view post)
  tokens : (crew.posts.map Post.token?).Nodup

variable {crew later final : Crew} {index : Nat} {post : Post}

/-- What somebody does with the coordinator is part of the surroundings of a worker. -/
theorem Overheard.acted {State Item : Type} {source : Source State Item}
    {remote : State → State → Prop} {capacity : Nat} {world : World (Noted State Item) Item}
    {action : Action} (heard : Overheard source remote capacity world)
    (allowed : world.coordinator.Allows action)
    (foreign : ∀ worker, world.worker = some worker → action ≠ .finish worker.token) :
    Overheard source remote capacity
      { world with coordinator := (world.coordinator.perform world.clock action).1 } :=
  .next (.next heard (.outside (.act allowed foreign))) (.outside (.log world.events))

namespace Staffed

theorem token (staffed : Staffed crew) (found : crew.posts[index]? = some post) :
    ∃ token, post.token? = some token ∧ token < crew.coordinator.tokens.length := by
  have reached := (staffed.stories index post found).reachable
  obtain ⟨worker, present, _⟩ := reached.staffed
  have held := reached.tokenHeld present
  refine ⟨worker.token, congrArg (Option.map Worker.token) present, ?_⟩
  exact (List.getElem?_eq_some_iff.mp held).1

/-- Two workers never have the same token. -/
theorem different (staffed : Staffed crew) {other : Nat} {neighbour : Post}
    (found : crew.posts[index]? = some post) (there : crew.posts[other]? = some neighbour)
    (apart : other ≠ index) : neighbour.token? ≠ post.token? := by
  intro same
  have equal : (crew.posts.map Post.token?)[other]? = (crew.posts.map Post.token?)[index]? := by
    rw [List.getElem?_map, List.getElem?_map, there, found, Option.map_some, Option.map_some, same]
  have inside : other < (crew.posts.map Post.token?).length := by
    simpa using (List.getElem?_eq_some_iff.mp there).1
  exact apart ((List.getElem?_inj inside staffed.tokens).mp equal)

/-- A foreign action leaves every worker with its story. -/
theorem act {action : Action} (staffed : Staffed crew) (allowed : crew.coordinator.Allows action)
    (found : crew.posts[index]? = some post)
    (foreign : ∀ token, post.token? = some token → action ≠ .finish token) :
    Overheard post.source post.remote post.capacity ((crew.act action).view post) := by
  refine (staffed.stories index post found).acted allowed ?_
  intro worker present
  exact foreign worker.token (congrArg (Option.map Worker.token) present)

/-- A move at one post is the affair of that post as long as all others keep their stories. -/
theorem place {next : post.Scene} (staffed : Staffed crew)
    (found : crew.posts[index]? = some post)
    (same : next.worker.map Worker.token = post.token?)
    (coordinator : next.coordinator.Reachable)
    (own : Overheard post.source post.remote post.capacity next)
    (others : ∀ (other : Nat) neighbour, crew.posts[other]? = some neighbour → other ≠ index →
      Overheard neighbour.source neighbour.remote neighbour.capacity
        ((crew.place index post next).view neighbour)) : Staffed (crew.place index post next) := by
  obtain ⟨inside, value⟩ := List.getElem?_eq_some_iff.mp found
  refine ⟨coordinator, ?_, ?_⟩
  · intro other neighbour there
    by_cases here : other = index
    · subst here
      obtain rfl := Option.some.inj ((List.getElem?_set_self inside).symm.trans there)
      exact own
    · exact others other neighbour ((List.getElem?_set_ne (Ne.symm here)).symm.trans there) here
  · have unchanged : (crew.place index post next).posts.map Post.token? =
        crew.posts.map Post.token? := by
      have token : Post.token? { post with world := next } = crew.posts[index].token? :=
        same.trans (congrArg Post.token? value).symm
      have known : index < (crew.posts.map Post.token?).length := by simpa using inside
      rw [Crew.place, List.map_set, token, ← List.getElem_map Post.token? (h := known)]
      exact List.set_getElem_self known
    rw [unchanged]
    exact staffed.tokens

theorem work {next : post.Scene} (staffed : Staffed crew)
    (found : crew.posts[index]? = some post)
    (stepped : (crew.view post).step post.source.noting = some next) :
    Staffed (crew.place index post next) := by
  have heard := staffed.stories index post found
  obtain ⟨worker, present, unordered⟩ := heard.reachable.staffed
  obtain ⟨added, step⟩ := World.stepCases present unordered stepped
  obtain ⟨later, there, _, _, token, _⟩ := step.staffed present
  have before : post.token? = some worker.token := congrArg (Option.map Worker.token) present
  have kept : next.worker.map Worker.token = post.token? := by
    rw [there, Option.map_some, token, before]
  have clock : next.clock = crew.clock := step.clock
  rcases step.coordinatorEnds with unchanged | ⟨_, _, ended⟩
  · have same : next.coordinator = crew.coordinator := unchanged
    refine staffed.place found kept (same ▸ staffed.coordinator) (heard.next (.work stepped)) ?_
    intro other neighbour there _
    rw [Crew.place, Crew.view, clock, same]
    exact staffed.stories other neighbour there
  · have acted : next.coordinator = (crew.act (.finish worker.token)).coordinator := ended
    have allowed : crew.coordinator.Allows (.finish worker.token) := trivial
    refine staffed.place found kept ?_ (heard.next (.work stepped)) ?_
    · exact acted ▸ .next staffed.coordinator crew.clock _ allowed
    · intro other neighbour there apart
      rw [Crew.place, Crew.view, clock, acted]
      refine staffed.act allowed there ?_
      intro foreign held ends
      obtain rfl := Action.finish.inj ends
      exact staffed.different found there apart (held.trans before.symm)

theorem aside {next : post.Scene} (staffed : Staffed crew)
    (found : crew.posts[index]? = some post)
    (moved : Outside (Noting post.remote) (crew.view post) next)
    (clock : next.clock = crew.clock) (coordinator : next.coordinator = crew.coordinator) :
    Staffed (crew.place index post next) := by
  have heard := staffed.stories index post found
  refine staffed.place found ?_ (coordinator ▸ staffed.coordinator) (heard.next (.outside moved)) ?_
  · exact congrArg (Option.map Worker.token) moved.workerSame
  · intro other neighbour there _
    rw [Crew.place, Crew.view, clock, coordinator]
    exact staffed.stories other neighbour there

/-- A new worker gets a token that nobody had before. -/
theorem spawn (staffed : Staffed crew) (topic : String) (policy : RetryPolicy)
    (present : crew.coordinator.isGone = false) (fresh : post.world.history = [])
    (uncalled : post.world.source.calls = []) : Staffed (crew.spawn post topic policy) := by
  have allowed : crew.coordinator.Allows .issue := present
  refine ⟨.next staffed.coordinator crew.clock .issue allowed, ?_, ?_⟩
  · intro other neighbour there
    rw [Crew.spawn, List.getElem?_append] at there
    split at there
    · exact staffed.act allowed there (by simp)
    · obtain rfl := List.mem_singleton.mp (List.mem_of_getElem? there)
      have unused : (crew.view post).history = [] := fresh
      exact .start unused uncalled staffed.coordinator topic policy
  · rw [Crew.spawn, List.map_append]
    refine List.Nodup.append staffed.tokens (List.nodup_singleton _) ?_
    intro token before now
    obtain ⟨neighbour, member, same⟩ := List.mem_map.mp before
    obtain ⟨other, there⟩ := List.mem_iff_getElem?.mp member
    obtain ⟨old, known, inside⟩ := staffed.token there
    have new : token = some crew.coordinator.tokens.length := List.mem_singleton.mp now
    rw [← same, known] at new
    exact Nat.ne_of_lt inside (Option.some.inj new)

theorem move (staffed : Staffed crew) (move : CrewMove crew later) : Staffed later := by
  cases move with
  | spawn topic policy present fresh uncalled =>
      exact staffed.spawn topic policy present fresh uncalled
  | work found stepped => exact staffed.work found stepped
  | aside found moved clock coordinator => exact staffed.aside found moved clock coordinator
  | @act action allowed foreign =>
      refine ⟨.next staffed.coordinator crew.clock action allowed, ?_, staffed.tokens⟩
      intro index post found
      exact staffed.act allowed found (foreign post (List.mem_of_getElem? found))
  | elapse time =>
      refine ⟨staffed.coordinator, ?_, staffed.tokens⟩
      intro index post found
      exact (staffed.stories index post found).next (.outside (.elapse time))

end Staffed

theorem Crew.Reachable.staffed (reached : crew.Reachable) : Staffed crew := by
  induction reached with
  | start coordinator unstaffed =>
      refine ⟨coordinator, ?_, ?_⟩
      · simp [unstaffed]
      · simp [unstaffed]
  | next _ move inductionHypothesis => exact inductionHypothesis.move move

theorem Crew.Reachable.run (reached : crew.Reachable) (run : CrewRun crew final) :
    final.Reachable := by
  induction run with
  | refl => exact reached
  | tail _ move inductionHypothesis => exact .next inductionHypothesis move

end NodeBridge.Observer
