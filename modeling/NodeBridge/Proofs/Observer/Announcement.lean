import NodeBridge.Proofs.Observer.Ownership

/-
This file follows the status that a worker publishes.
The status goes up and down with the subscription, and the last word of a worker is that it ends.
-/

namespace NodeBridge.Observer

variable {State Item : Type}

@[simp] def Happening.changed? : Happening Item → Option Status
  | .changed status => some status
  | _ => none

/-- A worker is subscribed while it holds a subscription and has not left its loop. -/
def Phase.status : Phase Item → Status
  | .watching _ | .handing _ _ | .blocked _ _ _ => .subscribed
  | .leaving _ | .ending | .finished | .stopped => .terminating
  | .created | .opening | .pausing _ => .unsubscribed

/-- These statuses were published after the one from the start. -/
def World.published (world : World State Item) : List Status :=
  world.chronicle.filterMap Happening.changed?

/-- So many subscriptions came and failed, so many came and did not fail, and then the worker may
have left its loop. -/
def statusPath (failed kept : Nat) (hasLeft : Bool) : List Status :=
  (List.replicate failed [.subscribed, .unsubscribed]).flatten ++
    List.replicate kept .subscribed ++ if hasLeft then [.terminating] else []

/-- What was published follows the subscriptions. -/
structure Announced (worker : Worker Item) (world : World State Item) : Prop where
  path : world.published = statusPath world.failed.length
    (world.closed.length + worker.phase.held?.toList.length) worker.phase.hasLeft
  alone : world.closed.length + worker.phase.held?.toList.length ≤ 1
  status : worker.status = worker.phase.status
  latest : (.unsubscribed :: world.published).getLast? = some worker.status

variable {source : Source State Item} {remote : State → State → Prop} {capacity : Nat}
  {world next : World State Item} {worker later : Worker Item} {added : List (Happening Item)}

theorem statusPathRises (failed : Nat) :
    statusPath failed 0 false ++ [.subscribed] = statusPath failed 1 false := by
  simp [statusPath]

theorem statusPathFalls (failed : Nat) :
    statusPath failed 1 false ++ [.unsubscribed] = statusPath (failed + 1) 0 false := by
  simp [statusPath, List.replicate_succ']

theorem statusPathEnds (failed kept : Nat) :
    statusPath failed kept false ++ [.terminating] = statusPath failed kept true := by
  simp [statusPath]

theorem World.publishedAdded (chronicle : next.chronicle = world.chronicle ++ added) :
    next.published = world.published ++ added.filterMap Happening.changed? := by
  simp [published, chronicle]

theorem World.publishedKept {items : List Item}
    (chronicle : next.chronicle = world.chronicle ++ items.map .taken) :
    next.published = world.published := by
  rw [publishedAdded chronicle, takingUnseen _ _ fun _ => rfl, List.append_nil]

theorem World.latestPublished {status : Status}
    (published : next.published = world.published ++ [status]) :
    (.unsubscribed :: next.published).getLast? = some status := by
  rw [published, ← List.cons_append, List.getLast?_concat]

/-- The end of a worker is announced once. -/
theorem publishedParting (worker : Worker Item) :
    worker.parting.filterMap Happening.changed? = [.terminating] := by
  cases phase : worker.phase <;> simp [Worker.parting, phase, List.filterMap_cons]

namespace Announced

/-- A step that keeps the account of the subscriptions publishes nothing. -/
theorem quiet (announced : Announced worker world)
    (chronicle : next.chronicle = world.chronicle ++ added)
    (silent : added.filterMap Happening.changed? = [] ∧ added.filterMap Happening.broken? = [])
    (kept : (added.filterMap Happening.closed?).length + later.phase.held?.toList.length =
      worker.phase.held?.toList.length)
    (hasLeft : later.phase.hasLeft = worker.phase.hasLeft) (status : later.status = worker.status)
    (same : later.phase.status = worker.phase.status) : Announced later next := by
  obtain ⟨_, failed, closed⟩ := World.handlesAdded chronicle
  obtain ⟨unchanged, unbroken⟩ := silent
  rw [unbroken, List.append_nil] at failed
  have published := World.publishedAdded chronicle
  rw [unchanged, List.append_nil] at published
  have account : next.closed.length + later.phase.held?.toList.length =
      world.closed.length + worker.phase.held?.toList.length := by
    rw [closed, List.length_append]
    omega
  refine ⟨?_, ?_, status.trans (announced.status.trans same.symm), ?_⟩
  · rw [published, announced.path, failed, account, hasLeft]
  · rw [account]
    exact announced.alone
  · rw [published, status]
    exact announced.latest

theorem handOver {number : Nat} {item : Item} {progress : Feed.Progress}
    {channel : Feed.Channel Item} (announced : Announced worker world)
    (holds : worker.phase.held? = some number) (staying : worker.phase.hasLeft = false)
    (subscribed : worker.phase.status = .subscribed)
    (there : ({ world with channel }.handOver worker number item progress).worker = some later) :
    Announced later ({ world with channel }.handOver worker number item progress) := by
  have chronicle : ({ world with channel }.handOver worker number item progress).chronicle =
      world.chronicle ++ Happening.ofProgress item progress :=
    World.chronicleHandOver number item progress
  cases progress with
  | accepted | closed | waits =>
      obtain rfl := Option.some.inj there
      exact announced.quiet chronicle ⟨rfl, rfl⟩ (by rw [holds]; rfl) staying.symm rfl
        subscribed.symm

theorem work (present : world.worker = some worker) (owned : Owned worker world)
    (announced : Announced worker world) (step : WorkerStep source worker world added next)
    (there : next.worker = some later) : Announced later next := by
  have chronicle := step.chronicle
  have path := announced.path
  have published := World.publishedAdded chronicle
  obtain ⟨_, failed, closed⟩ := World.handlesAdded chronicle
  cases step with
  | start phase | retry phase | refuse phase | deliver phase | ignore phase =>
      obtain rfl := Option.some.inj there
      exact announced.quiet chronicle ⟨rfl, rfl⟩ (by rw [phase]; rfl) (by rw [phase]; rfl) rfl
        (by rw [phase]; rfl)
  | remark phase =>
      obtain rfl := Option.some.inj (present.symm.trans there)
      exact announced.quiet chronicle ⟨rfl, rfl⟩ (Nat.zero_add _) rfl rfl rfl
  | offer phase =>
      exact announced.handOver (by rw [phase]; rfl) (by rw [phase]; rfl) (by rw [phase]; rfl) there
  | poll phase =>
      exact announced.handOver (by rw [phase]; rfl) (by rw [phase]; rfl) (by rw [phase]; rfl) there
  | subscribe phase =>
      obtain rfl := Option.some.inj there
      rw [owned.unclosed (by rw [phase]; rfl), phase] at path
      rw [owned.unclosed (by rw [phase]; rfl)] at closed
      refine ⟨?_, ?_, rfl, World.latestPublished published⟩
      · rw [published, path, failed, closed]
        exact (statusPathRises _).trans
          (by simp [Phase.held?, Phase.hasLeft, Phase.isOver, List.filterMap_cons])
      · rw [closed]
        exact Nat.le_refl 1
  | fail phase =>
      obtain rfl := Option.some.inj there
      rw [owned.unclosed (by rw [phase]; rfl), phase] at path
      rw [owned.unclosed (by rw [phase]; rfl)] at closed
      refine ⟨?_, ?_, rfl, World.latestPublished published⟩
      · rw [published, path, failed, closed]
        exact (statusPathFalls _).trans
          (by simp [Phase.held?, Phase.hasLeft, Phase.isOver, List.filterMap_cons])
      · rw [closed]
        exact Nat.zero_le 1
  | leave heeds =>
      obtain rfl := Option.some.inj there
      have staying := Worker.stayedOfHeeds heeds
      obtain ⟨_, unbroken, uncloses⟩ := handlesParting worker
      rw [owned.unclosed (Phase.unclosedOfStayed staying), staying] at path
      rw [owned.unclosed (Phase.unclosedOfStayed staying), uncloses] at closed
      rw [unbroken, List.append_nil] at failed
      rw [publishedParting] at published
      refine ⟨?_, ?_, rfl, World.latestPublished published⟩
      · rw [published, path, failed, closed, statusPathEnds]
        rfl
      · rw [closed]
        have alone := announced.alone
        rw [owned.unclosed (Phase.unclosedOfStayed staying)] at alone
        exact alone
  | close phase | spare phase | finish phase =>
      obtain rfl := Option.some.inj there
      exact announced.quiet chronicle ⟨rfl, rfl⟩ (by rw [phase]; rfl) (by rw [phase]; rfl) rfl
        (by rw [phase]; rfl)

/-- Others publish nothing for the worker. -/
theorem rest (announced : Announced worker world) (moved : Outside remote world next) :
    Announced worker next := by
  obtain ⟨items, chronicle⟩ := moved.chronicleAdds
  obtain ⟨_, _, failed, closed⟩ := World.keptByTaking chronicle
  have published := World.publishedKept chronicle
  refine ⟨?_, ?_, announced.status, published ▸ announced.latest⟩
  · rw [published, failed, closed]
    exact announced.path
  · rw [closed]
    exact announced.alone

end Announced

theorem Reachable.announced (reached : Reachable source remote capacity world)
    (present : world.worker = some worker) : Announced worker world := by
  induction reached generalizing worker with
  | @start idle fresh coordinator topic policy =>
      obtain rfl := Option.some.inj present
      have nothing := World.chronicleSpawn topic policy capacity fresh
      refine ⟨?_, ?_, rfl, ?_⟩
      all_goals simp only [World.published, World.failed, World.closed, nothing]
      · rfl
      · exact Nat.zero_le 1
      · rfl
  | next reached move inductionHypothesis =>
      obtain ⟨before, there, unordered⟩ := reached.staffed
      have announced := inductionHypothesis there
      cases move with
      | work stepped =>
          obtain ⟨added, step⟩ := World.stepCases there unordered stepped
          exact announced.work there (reached.owned there) step present
      | outside moved =>
          obtain rfl := Option.some.inj (present.symm.trans (moved.workerSame.trans there))
          exact announced.rest moved

end NodeBridge.Observer
