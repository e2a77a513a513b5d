import NodeBridge.Proofs.Observer.Run

/-
This file follows the attempts of a worker in time.
Time passes only while the worker waits, and the worker is in step with the failures of its past.
-/

namespace NodeBridge.Observer

variable {State Item : Type}

/-- This is what the past says about the next attempt. -/
structure Pace where
  /-- So many attempts and subscriptions have failed since the last subscription began. -/
  failures : Nat := 0
  /-- The last failure was at this time, and no attempt has begun since. -/
  failed : Option Nat := none
  /-- A subscription has begun and has not failed. -/
  holding : Bool := false
  /-- The last attempt began at this time. -/
  attempted : Option Nat := none

namespace Pace

/-- One more failure in a row leaves no subscription. -/
def fail (time : Nat) (pace : Pace) : Pace :=
  { pace with failures := pace.failures + 1, failed := some time, holding := false }

/-- A happening changes the pace at its time. -/
def note (pace : Pace) : Nat × Happening Item → Pace
  | (time, .attempted) => { pace with failed := none, attempted := some time }
  | (_, .established _ _) => { pace with failures := 0, holding := true }
  | (time, .refused _ _) => pace.fail time
  | (time, .broken _ _) => pace.fail time
  | _ => pace

/-- A worker cannot count beyond its largest number. -/
def count (pace : Pace) : Nat := min pace.failures RetryPolicy.maximumFailures

end Pace

def paceOf (past : List (Nat × Happening Item)) : Pace := past.foldl Pace.note {}

/-- An attempt is the first one, or it begins exactly with the end of the delay that the failures
in a row ask for, and there is at least one of these whenever a delay is asked for.
An attempt that fails has the number of failures in a row with itself, and a subscription that
fails is the first failure after its success. -/
def Timely (policy : RetryPolicy) (past : List (Nat × Happening Item)) :
    Nat × Happening Item → Prop
  | (time, .attempted) => (paceOf past).attempted = none ∨
      ∃ since, (paceOf past).failed = some since ∧ 1 ≤ (paceOf past).failures ∧
        time = since + (policy (paceOf past).count).milliseconds
  | (time, .delayed failures) => failures = (paceOf past).count ∧ 1 ≤ failures ∧
      (paceOf past).failed = some time
  | (_, .refused _ failures) =>
      failures = min ((paceOf past).failures + 1) RetryPolicy.maximumFailures
  | (_, .broken _ _) => (paceOf past).failures = 0 ∧ (paceOf past).holding = true
  | _ => True

namespace World

/-- These are the happenings with their times from the first to the latest. -/
def annals (world : World State Item) : List (Nat × Happening Item) := world.history.reverse

end World

/-- Time passes only while the worker waits, and it does not miss the end of a delay. -/
inductive OnTime (source : Source State Item) (remote : State → State → Prop)
    (policy : RetryPolicy) (capacity : Nat) : World State Item → Prop where
  | start {idle : World State Item} (fresh : idle.history = [])
      (coordinator : idle.coordinator.Reachable) (topic : String) :
      OnTime source remote policy capacity (idle.spawn topic policy capacity)
  | work {world next : World State Item} (onTime : OnTime source remote policy capacity world)
      (stepped : world.step source = some next) : OnTime source remote policy capacity next
  | aside {world next : World State Item} (onTime : OnTime source remote policy capacity world)
      (moved : Outside remote world next) (clock : next.clock = world.clock) :
      OnTime source remote policy capacity next
  | elapse {world : World State Item} {time : Nat}
      (onTime : OnTime source remote policy capacity world) (rests : world.step source = none)
      (inTime : ∀ worker due, world.worker = some worker → worker.phase = .pausing due →
        time ≤ due) : OnTime source remote policy capacity (world.jump time)

variable {source : Source State Item} {remote : State → State → Prop} {capacity : Nat}
  {policy : RetryPolicy} {world next : World State Item} {worker later : Worker Item}
  {added : List (Happening Item)} {past : List (Nat × Happening Item)}

theorem OnTime.reachable (onTime : OnTime source remote policy capacity world) :
    Reachable source remote capacity world := by
  induction onTime with
  | start fresh coordinator topic => exact .start fresh coordinator topic policy
  | work _ stepped inductionHypothesis => exact .next inductionHypothesis (.work stepped)
  | aside _ moved _ inductionHypothesis => exact .next inductionHypothesis (.outside moved)
  | elapse _ _ _ inductionHypothesis => exact .next inductionHypothesis (.outside (.elapse _))

section Annals

theorem World.annalsOfHistory {time : Nat}
    (history : next.history = (added.map (Prod.mk time)).reverse ++ world.history) :
    next.annals = world.annals ++ added.map (Prod.mk time) := by
  rw [annals, history, List.reverse_append, List.reverse_reverse, annals]

theorem World.annalsHandOver (number : Nat) (item : Item) (progress : Feed.Progress) :
    (world.handOver worker number item progress).annals =
      world.annals ++ (Happening.ofProgress item progress).map (Prod.mk world.clock) := by
  cases progress <;> exact annalsOfHistory rfl

theorem World.annalsLeave (worker : Worker Item) (world : World State Item) :
    (world.leave worker).annals =
      world.annals ++ worker.parting.map (Prod.mk world.clock) := by
  refine annalsOfHistory ?_
  cases phase : worker.phase <;> simp [leave, cutOff, record, setWorker, phase, Worker.parting]

/-- What a step adds happens at the time of the step. -/
theorem WorkerStep.annals (step : WorkerStep source worker world added next) :
    next.annals = world.annals ++ added.map (Prod.mk world.clock) := by
  cases step with
  | offer | poll => exact World.annalsHandOver _ _ _
  | leave => exact World.annalsLeave worker world
  | _ => exact World.annalsOfHistory rfl

/-- Others add only what the consumer takes, and it is taken at that time. -/
theorem Outside.annals (moved : Outside remote world next) :
    ∃ items : List Item, next.annals =
      world.annals ++ (items.map .taken).map (Prod.mk world.clock) := by
  cases moved with
  | @take item _ taken =>
      obtain ⟨channel, _, rfl⟩ := World.takeCases taken
      exact ⟨[item], List.reverse_cons⟩
  | _ => exact ⟨[], (List.append_nil _).symm⟩

end Annals

/-- The phase of a worker agrees with the pace. -/
def Phase.Keeps (policy : RetryPolicy) (clock : Nat) (pace : Pace) : Phase Item → Prop
  | .created => pace.attempted = none ∧ pace.holding = false
  | .opening => pace.holding = false
  | .pausing due => pace.holding = false ∧ 1 ≤ pace.failures ∧ clock ≤ due ∧
      ∃ since, pace.failed = some since ∧ due = since + (policy pace.count).milliseconds
  | .watching _ | .handing _ _ | .blocked _ _ _ => pace.holding = true ∧ pace.failures = 0
  | .leaving _ | .ending | .finished | .stopped => True

/-- The past of a worker was timely, and the worker is in step with it. -/
structure Paced (policy : RetryPolicy) (worker : Worker Item) (world : World State Item) :
    Prop where
  asks : worker.policy = policy
  timely : Throughout (Timely policy) world.annals
  ordered : world.annals.Pairwise fun earlier later => earlier.1 ≤ later.1
  past : ∀ entry ∈ world.annals, entry.1 ≤ world.clock
  counted : worker.failures = (paceOf world.annals).count
  phase : worker.phase.Keeps policy world.clock (paceOf world.annals)

theorem paceOfAppend (past added : List (Nat × Happening Item)) :
    paceOf (past ++ added) = added.foldl Pace.note (paceOf past) :=
  List.foldl_append

namespace Paced

/-- Whoever adds only what is timely at its time stays in step. -/
theorem after (paced : Paced policy worker world)
    (annals : next.annals = world.annals ++ added.map (Prod.mk world.clock))
    (clock : next.clock = world.clock) (same : later.policy = worker.policy)
    (successive : Successive (Timely policy) world.annals (added.map (Prod.mk world.clock)))
    (counted : later.failures =
      ((added.map (Prod.mk world.clock)).foldl Pace.note (paceOf world.annals)).count)
    (phase : later.phase.Keeps policy world.clock
      ((added.map (Prod.mk world.clock)).foldl Pace.note (paceOf world.annals))) :
    Paced policy later next := by
  have present (entry : Nat × Happening Item) (member : entry ∈ added.map (Prod.mk world.clock)) :
      entry.1 = world.clock := by
    obtain ⟨_, _, rfl⟩ := List.mem_map.mp member
    rfl
  refine ⟨same.trans paced.asks, ?_, ?_, ?_, ?_, ?_⟩
  · rw [annals]
    exact paced.timely.append successive
  · rw [annals]
    refine List.pairwise_append.mpr ⟨paced.ordered, ?_, ?_⟩
    · exact List.pairwise_map.mpr (List.pairwise_of_forall fun _ _ => Nat.le_refl _)
    · intro earlier before entry member
      exact present entry member ▸ paced.past earlier before
  · rw [annals, clock]
    intro entry member
    rcases List.mem_append.mp member with before | now
    · exact paced.past entry before
    · exact Nat.le_of_eq (present entry now)
  · rw [annals, paceOfAppend]
    exact counted
  · rw [annals, paceOfAppend, clock]
    exact phase

theorem nextCount (paced : Paced policy worker world) : RetryPolicy.nextFailure worker.failures =
    min ((paceOf world.annals).failures + 1) RetryPolicy.maximumFailures := by
  rw [paced.counted, RetryPolicy.nextFailure, Pace.count]
  omega

/-- After a failure the delay is asked for the new number of failures in a row. -/
theorem delayed (paced : Paced policy worker world) {failure : List (Nat × Happening Item)}
    (fails : failure.foldl Pace.note (paceOf world.annals) =
      (paceOf world.annals).fail world.clock) :
    Timely policy (world.annals ++ failure)
      (world.clock, .delayed (RetryPolicy.nextFailure worker.failures)) := by
  rw [Timely, paceOfAppend, fails]
  refine ⟨paced.nextCount, ?_, rfl⟩
  rw [paced.nextCount]
  exact Nat.le_min.mpr ⟨Nat.le_add_left _ _, by decide⟩

/-- The delay begins with the failure. -/
theorem pausing (paced : Paced policy worker world) :
    (Phase.pausing (world.clock + (worker.policy (RetryPolicy.nextFailure
      worker.failures)).milliseconds) : Phase Item).Keeps policy world.clock
        ((paceOf world.annals).fail world.clock) := by
  rw [paced.asks, paced.nextCount]
  exact ⟨rfl, Nat.le_add_left _ _, Nat.le_add_right _ _, _, rfl, rfl⟩

theorem handOver {number : Nat} {item : Item} {progress : Feed.Progress}
    {channel : Feed.Channel Item} (paced : Paced policy worker world)
    (keeps : (paceOf world.annals).holding = true ∧ (paceOf world.annals).failures = 0)
    (there : ({ world with channel }.handOver worker number item progress).worker = some later) :
    Paced policy later ({ world with channel }.handOver worker number item progress) := by
  have counted := paced.counted
  have annals : ({ world with channel }.handOver worker number item progress).annals =
      world.annals ++ (Happening.ofProgress item progress).map (Prod.mk world.clock) :=
    World.annalsHandOver number item progress
  cases progress with
  | accepted | closed =>
      obtain rfl := Option.some.inj there
      exact paced.after annals rfl rfl ⟨trivial, trivial⟩ counted keeps
  | waits ticket =>
      obtain rfl := Option.some.inj there
      exact paced.after annals rfl rfl trivial counted keeps

/-- The end of a worker has nothing to do with its pace. -/
theorem leave (paced : Paced policy worker world) :
    Paced policy
      { worker with status := .terminating, phase := .leaving worker.phase.held? }
      (world.leave worker) := by
  have annals := World.annalsLeave worker world
  have clock : (world.leave worker).clock = world.clock := (World.leaveKeeps worker world).1
  have counted := paced.counted
  cases phase : worker.phase <;> rw [Worker.parting, phase] at annals <;>
    exact paced.after annals clock rfl (by simp [Successive, Timely]) counted trivial

theorem work (present : world.worker = some worker) (paced : Paced policy worker world)
    (step : WorkerStep source worker world added next) (there : next.worker = some later) :
    Paced policy later next := by
  have annals := step.annals
  have clock := step.clock
  have keeps := paced.phase
  have counted := paced.counted
  have numbered := paced.nextCount
  have asks := paced.asks
  cases step with
  | start phase =>
      obtain rfl := Option.some.inj there
      rw [phase] at keeps
      refine paced.after annals clock rfl ⟨trivial, .inl ?_, trivial⟩ counted keeps.2
      rw [paceOfAppend]
      exact keeps.1
  | retry phase quiet expired =>
      obtain rfl := Option.some.inj there
      rw [phase] at keeps
      obtain ⟨unheld, positive, early, since, failed, due⟩ := keeps
      have exact : world.clock = since + (policy (paceOf world.annals).count).milliseconds :=
        due ▸ Nat.le_antisymm early expired
      exact paced.after annals clock rfl ⟨.inr ⟨since, failed, positive, exact⟩, trivial⟩ counted
        unheld
  | subscribe phase =>
      obtain rfl := Option.some.inj there
      exact paced.after annals clock rfl ⟨trivial, trivial, trivial⟩ rfl ⟨rfl, rfl⟩
  | refuse phase =>
      obtain rfl := Option.some.inj there
      rw [phase] at keeps
      refine paced.after annals clock rfl ⟨numbered, ?_, trivial⟩ numbered ?_
      · exact paced.delayed rfl
      · exact paced.pausing
  | fail phase =>
      obtain rfl := Option.some.inj there
      rw [phase] at keeps
      refine paced.after annals clock rfl ⟨⟨keeps.2, keeps.1⟩, trivial, ?_, trivial⟩ numbered ?_
      · rw [List.append_assoc]
        exact paced.delayed rfl
      · exact paced.pausing
  | remark phase =>
      obtain rfl := Option.some.inj (present.symm.trans there)
      exact paced.after annals clock rfl trivial counted keeps
  | deliver phase | ignore phase =>
      obtain rfl := Option.some.inj there
      rw [phase] at keeps
      exact paced.after annals clock rfl ⟨trivial, trivial⟩ counted keeps
  | offer phase =>
      rw [phase] at keeps
      exact paced.handOver keeps there
  | poll phase =>
      rw [phase] at keeps
      exact paced.handOver keeps there
  | leave heeds =>
      obtain rfl := Option.some.inj there
      exact paced.leave
  | close | spare | finish =>
      obtain rfl := Option.some.inj there
      exact paced.after annals clock rfl (by simp [Successive, Timely]) counted trivial

/-- What the consumer takes does not change the pace. -/
theorem rest (paced : Paced policy worker world) (moved : Outside remote world next)
    (clock : next.clock = world.clock) : Paced policy worker next := by
  obtain ⟨items, annals⟩ := moved.annals
  have unchanged (pace : Pace) (items : List Item) :
      ((items.map .taken).map (Prod.mk world.clock)).foldl Pace.note pace = pace := by
    induction items with
    | nil => rfl
    | cons item rest inductionHypothesis => exact inductionHypothesis
  have successive (past : List (Nat × Happening Item)) (items : List Item) :
      Successive (Timely policy) past ((items.map .taken).map (Prod.mk world.clock)) := by
    induction items generalizing past with
    | nil => trivial
    | cons item rest inductionHypothesis => exact ⟨trivial, inductionHypothesis _⟩
  refine paced.after annals clock rfl (successive _ _) ?_ ?_
  · rw [unchanged]
    exact paced.counted
  · rw [unchanged]
    exact paced.phase

/-- Time that passes before the end of a delay leaves the worker in step. -/
theorem elapse {time : Nat} (paced : Paced policy worker world)
    (inTime : ∀ due, worker.phase = .pausing due → time ≤ due) :
    Paced policy worker (world.jump time) := by
  refine ⟨paced.asks, paced.timely, paced.ordered, ?_, paced.counted, ?_⟩
  · intro entry member
    exact Nat.le_trans (paced.past entry member) (Nat.le_max_left _ _)
  · have keeps := paced.phase
    cases phase : worker.phase with
    | pausing due =>
        rw [phase] at keeps
        obtain ⟨unheld, positive, early, delay⟩ := keeps
        exact ⟨unheld, positive, Nat.max_le.mpr ⟨early, inTime due phase⟩, delay⟩
    | _ =>
        rw [phase] at keeps
        exact keeps

end Paced

theorem OnTime.paced (onTime : OnTime source remote policy capacity world)
    (present : world.worker = some worker) : Paced policy worker world := by
  induction onTime generalizing worker with
  | @start idle fresh coordinator topic =>
      obtain rfl := Option.some.inj present
      have nothing : (idle.spawn topic policy capacity).annals = [] := by
        simp [World.annals, World.spawn, World.setWorker, fresh]
      refine ⟨rfl, ?_, ?_, ?_, ?_, ?_⟩
      all_goals rw [nothing]
      · exact .nil
      · exact .nil
      · exact fun _ member => absurd member List.not_mem_nil
      · exact (Nat.zero_min _).symm
      · exact ⟨rfl, rfl⟩
  | work onTime stepped inductionHypothesis =>
      obtain ⟨before, there, unordered⟩ := onTime.reachable.staffed
      obtain ⟨added, step⟩ := World.stepCases there unordered stepped
      exact (inductionHypothesis there).work there step present
  | aside _ moved clock inductionHypothesis =>
      exact (inductionHypothesis (moved.workerSame.symm.trans present)).rest moved clock
  | elapse _ _ inTime inductionHypothesis =>
      exact (inductionHypothesis present).elapse fun due => inTime worker due present

end NodeBridge.Observer
