import NodeBridge.Observer.Script
import NodeBridge.Proofs.Duration
import NodeBridge.Proofs.Observer.Timing
import Mathlib.Data.List.Induction

/-
This file shows how a policy paces the attempts of a worker.
Every attempt after the first one waits for the delay that the failures in a row ask for, and a
lower bound on the delays keeps the attempts apart, no matter how subscriptions fail.
-/

namespace NodeBridge.Observer

variable {State Item : Type}

def isRefused : Nat × Happening Item → Bool
  | (_, .refused _ _) => true
  | _ => false

def isEstablished : Nat × Happening Item → Bool
  | (_, .established _ _) => true
  | _ => false

variable {source : Source State Item} {remote : State → State → Prop} {capacity : Nat}
  {policy : RetryPolicy} {world next : World State Item} {worker later : Worker Item}
  {added : List (Happening Item)} {past : List (Nat × Happening Item)}

/-- Every attempt is past, and from then on it takes at least this long until the next one. -/
structure Apart (shortest : Nat) (worker : Worker Item) (world : World State Item) : Prop where
  apart : world.attempts.Pairwise fun earlier later => earlier + shortest ≤ later
  past : ∀ time ∈ world.attempts, time ≤ world.clock
  waits : ∀ due, worker.phase = .pausing due → ∀ time ∈ world.attempts, time + shortest ≤ due
  first : worker.phase = .created → world.attempts = []

namespace Apart

variable {shortest : Nat}

/-- Whoever begins no attempt leaves the attempts apart, also with a delay that is long enough. -/
theorem quiet (apart : Apart shortest worker world) (attempts : next.attempts = world.attempts)
    (clock : next.clock = world.clock) (begun : later.phase ≠ .created)
    (waits : ∀ due, later.phase = .pausing due → world.clock + shortest ≤ due) :
    Apart shortest later next := by
  refine ⟨?_, ?_, ?_, fun created => absurd created begun⟩
  · rw [attempts]
    exact apart.apart
  · rw [attempts, clock]
    exact apart.past
  · rw [attempts]
    intro due pausing time member
    have before := apart.past time member
    have enough := waits due pausing
    omega

theorem attempt (apart : Apart shortest worker world)
    (attempts : next.attempts = world.attempts ++ [world.clock])
    (clock : next.clock = world.clock) (opening : later.phase = .opening)
    (waited : ∀ time ∈ world.attempts, time + shortest ≤ world.clock) :
    Apart shortest later next := by
  refine ⟨?_, ?_, ?_, ?_⟩
  · rw [attempts]
    refine List.pairwise_append.mpr ⟨apart.apart, List.pairwise_singleton _ _, ?_⟩
    intro earlier member latest now
    exact List.mem_singleton.mp now ▸ waited earlier member
  · rw [attempts, clock]
    intro time member
    rcases List.mem_append.mp member with before | now
    · exact apart.past time before
    · exact Nat.le_of_eq (List.mem_singleton.mp now)
  · simp [opening]
  · simp [opening]

theorem handOver {number : Nat} {item : Item} {progress : Feed.Progress}
    {channel : Feed.Channel Item} (apart : Apart shortest worker world)
    (there : ({ world with channel }.handOver worker number item progress).worker = some later) :
    Apart shortest later ({ world with channel }.handOver worker number item progress) := by
  cases progress with
  | accepted | closed | waits =>
      obtain rfl := Option.some.inj there
      exact apart.quiet rfl rfl (by simp) (by simp)

theorem work (present : world.worker = some worker)
    (enough : ∀ failures, 1 ≤ failures → shortest ≤ (worker.policy failures).milliseconds)
    (apart : Apart shortest worker world) (step : WorkerStep source worker world added next)
    (there : next.worker = some later) : Apart shortest later next := by
  have clock := step.clock
  have delay : shortest ≤
      (worker.policy (RetryPolicy.nextFailure worker.failures)).milliseconds :=
    enough _ (Nat.le_min.mpr ⟨Nat.le_add_left _ _, by decide⟩)
  cases step with
  | start phase =>
      obtain rfl := Option.some.inj there
      refine apart.attempt List.reverse_cons clock rfl ?_
      rw [apart.first phase]
      exact fun _ member => absurd member List.not_mem_nil
  | retry phase quiet expired =>
      obtain rfl := Option.some.inj there
      refine apart.attempt List.reverse_cons clock rfl ?_
      exact fun time member => Nat.le_trans (apart.waits _ phase time member) expired
  | subscribe | deliver | ignore =>
      obtain rfl := Option.some.inj there
      exact apart.quiet rfl clock (by simp) (by simp)
  | refuse | fail =>
      obtain rfl := Option.some.inj there
      refine apart.quiet rfl clock (by simp) ?_
      intro due pausing
      exact Phase.pausing.inj pausing ▸ Nat.add_le_add_left delay world.clock
  | remark phase =>
      obtain rfl := Option.some.inj (present.symm.trans there)
      exact apart.quiet rfl rfl (by simp [phase]) (by simp [phase])
  | offer | poll => exact apart.handOver there
  | leave =>
      obtain rfl := Option.some.inj there
      exact apart.quiet (World.attemptsLeave worker world) clock (by simp) (by simp)
  | close | spare | finish =>
      obtain rfl := Option.some.inj there
      exact apart.quiet rfl clock (by simp) (by simp)

/-- Time and others leave the attempts alone. -/
theorem rest (apart : Apart shortest worker world) (moved : Outside remote world next) :
    Apart shortest worker next := by
  have later : world.clock ≤ next.clock := by
    cases moved with
    | elapse => exact Nat.le_max_left _ _
    | take taken =>
        obtain ⟨channel, _, rfl⟩ := World.takeCases taken
        exact Nat.le_refl _
    | _ => exact Nat.le_refl _
  refine ⟨?_, ?_, ?_, ?_⟩
  all_goals rw [moved.attemptsSame]
  · exact apart.apart
  · exact fun time member => Nat.le_trans (apart.past time member) later
  · exact apart.waits
  · exact apart.first

end Apart

theorem Reachable.apart {shortest : Nat} (reached : Reachable source remote capacity world)
    (present : world.worker = some worker)
    (enough : ∀ failures, 1 ≤ failures → shortest ≤ (worker.policy failures).milliseconds) :
    Apart shortest worker world := by
  induction reached generalizing worker with
  | @start idle fresh coordinator topic policy =>
      obtain rfl := Option.some.inj present
      have nothing : (idle.spawn topic policy capacity).attempts = [] := by
        simp [World.attempts, World.spawn, World.setWorker, fresh]
      refine ⟨?_, ?_, ?_, fun _ => nothing⟩
      all_goals rw [nothing]
      · exact .nil
      · exact fun _ member => absurd member List.not_mem_nil
      · exact fun _ _ _ member => absurd member List.not_mem_nil
  | next reached move inductionHypothesis =>
      obtain ⟨before, there, unordered⟩ := reached.staffed
      cases move with
      | work stepped =>
          obtain ⟨added, step⟩ := World.stepCases there unordered stepped
          obtain ⟨later, same, _, policy, _⟩ := step.staffed there
          obtain rfl := Option.some.inj (same.symm.trans present)
          rw [policy] at enough
          exact (inductionHypothesis there enough).work there enough step present
      | outside moved =>
          obtain rfl := Option.some.inj (present.symm.trans (moved.workerSame.trans there))
          exact (inductionHypothesis there enough).rest moved

section Spans

variable {shortest : Nat}

/-- In a span of time there is room only for so many times that are apart. -/
theorem roomInSpan {times : List Nat} (start span : Nat)
    (apart : times.Pairwise fun earlier later => earlier + shortest ≤ later)
    (inside : ∀ time ∈ times, start ≤ time ∧ time ≤ start + span) :
    times.length * shortest ≤ span + shortest := by
  induction times generalizing start span with
  | nil => simp
  | cons first rest inductionHypothesis =>
      obtain ⟨after, apartRest⟩ := List.pairwise_cons.mp apart
      obtain ⟨begins, ends⟩ := inside first List.mem_cons_self
      cases rest with
      | nil => simp
      | cons second others =>
          have step := after second List.mem_cons_self
          have last := (inside second (List.mem_cons_of_mem _ List.mem_cons_self)).2
          have less := inductionHypothesis (start + shortest) (span - shortest) apartRest ?_
          · rw [List.length_cons, Nat.add_mul, Nat.one_mul]
            omega
          · intro time member
            have later := after time member
            have within := (inside time (List.mem_cons_of_mem _ member)).2
            omega

/-- Not more attempts begin in a span than fit into it with the shortest delay between them. -/
theorem attemptsInSpan {times : List Nat} (positive : 0 < shortest)
    (apart : times.Pairwise fun earlier later => earlier + shortest ≤ later) (start span : Nat) :
    (times.filter fun time => start ≤ time ∧ time ≤ start + span).length ≤ span / shortest + 1 := by
  rw [← Nat.add_div_right span positive, Nat.le_div_iff_mul_le positive]
  refine roomInSpan start span (apart.filter _) ?_
  intro time member
  simpa using (List.mem_filter.mp member).2

end Spans

theorem paceOfConcat (past : List (Nat × Happening Item)) (entry : Nat × Happening Item) :
    paceOf (past ++ [entry]) = (paceOf past).note entry :=
  paceOfAppend past [entry]

/-- Without a new subscription the failures in a row are those from before and every attempt that
failed since then. -/
theorem failuresInRow {between : List (Nat × Happening Item)}
    (timely : Throughout (Timely policy) (past ++ between))
    (unheld : (paceOf past).holding = false)
    (unopened : ∀ entry ∈ between, isEstablished entry = false) :
    (paceOf (past ++ between)).holding = false ∧ (paceOf (past ++ between)).failures =
      (paceOf past).failures + between.countP isRefused := by
  induction between using List.reverseRecOn with
  | nil => simpa using unheld
  | append_singleton between entry inductionHypothesis =>
      rw [← List.append_assoc] at timely ⊢
      obtain ⟨stillUnheld, failures⟩ := inductionHypothesis timely.before
        fun other member => unopened other (List.mem_append_left _ member)
      have current := timely (past ++ between) entry [] rfl
      have opens := unopened entry (List.mem_append_right _ (List.mem_singleton_self _))
      obtain ⟨time, happening⟩ := entry
      rw [paceOfConcat, List.countP_append, ← Nat.add_assoc, ← failures]
      cases happening with
      | established => contradiction
      | broken =>
          have held : (paceOf (past ++ between)).holding = true := current.2
          exact absurd (stillUnheld.symm.trans held) Bool.false_ne_true
      | refused => exact ⟨rfl, rfl⟩
      | _ => exact ⟨stillUnheld, rfl⟩

/-- A failed attempt is reported with its number. -/
def failedAttempt (topic : String) (error : OpenError) (number : Nat) : Event :=
  ⟨.error, .observer, "Can not observe new blocks",
    [("severity", .quoted "critical"), ("topic", .shown topic),
      ("error", .shown error.message), ("attempt", .number number)]⟩

/-- Attempts keep a distance, and a span of time has room for only so many of them. -/
structure Spaced (shortest : Nat) (world : World State Item) : Prop where
  apart : world.attempts.Pairwise fun earlier later => earlier + shortest ≤ later
  rare : 0 < shortest → ∀ start span,
    (world.attempts.filter fun time => start ≤ time ∧ time ≤ start + span).length ≤
      span / shortest + 1

/-- This is the pace of a worker that is on time, among failures of all kinds. -/
structure Pacing (source : Source State Item) (remote : State → State → Prop)
    (policy : RetryPolicy) (capacity : Nat) (worker : Worker Item) (world : World State Item) :
    Prop where
  /-- Attempts began and delays were asked for as the failures in a row demand. -/
  timely : Throughout (Timely policy) world.annals
  /-- What is told first did not happen later. -/
  ordered : world.annals.Pairwise fun earlier later => earlier.1 ≤ later.1
  /-- Until the first subscription the attempts that fail are numbered from one on. -/
  fromStart : ∀ past time error number future,
    world.annals = past ++ (time, .refused error number) :: future →
    (∀ entry ∈ past, isEstablished entry = false) →
    number = min (past.countP isRefused + 1) RetryPolicy.maximumFailures
  /-- After a subscription that failed they are numbered from two on, until the next one. -/
  fromFailure : ∀ past end_ broken reason between time error number future,
    world.annals = past ++ (end_, .broken broken reason) :: between ++
      (time, .refused error number) :: future →
    (∀ entry ∈ between, isEstablished entry = false) →
    number = min (between.countP isRefused + 2) RetryPolicy.maximumFailures
  /-- An attempt that fails is reported with its number. -/
  reported : ∀ error state, worker.phase = .opening →
    source.completion? world.clock world.source = some (.error error, state) →
    ∃ next, world.step source = some next ∧ next.events = world.events ++
      [failedAttempt worker.topic error
        (min ((paceOf world.annals).failures + 1) RetryPolicy.maximumFailures)]
  /-- After however many failures, the end of the delay brings another attempt, and not earlier. -/
  goesOn : ∀ due, worker.phase = .pausing due → world.coordinator.signalArrives = false →
    (world.clock < due → world.step source = none) ∧
    ∃ next, OnTime source remote policy capacity next ∧
      (world.jump due).step source = some next ∧ next.attempts = world.attempts ++ [due]

/-- The past of a worker that is on time obeys its policy. -/
theorem OnTime.pacing (onTime : OnTime source remote policy capacity world)
    (present : world.worker = some worker) :
    Pacing source remote policy capacity worker world := by
  have unordered := onTime.reachable.unordered present
  have paced := onTime.paced present
  refine ⟨paced.timely, paced.ordered, ?_, ?_, ?_, ?_⟩
  · intro past time error number future split unopened
    have numbered : number = _ := paced.timely past (time, .refused error number) future split
    have timely : Throughout (Timely policy) ([] ++ past) := (split ▸ paced.timely).before
    rw [numbered, ← List.nil_append past, (failuresInRow timely rfl unopened).2]
    simp [paceOf]
  · intro past end_ broken reason between time error number future split unopened
    have whole : world.annals = (past ++ [(end_, .broken broken reason)] ++ between) ++
        (time, .refused error number) :: future := by simpa using split
    have numbered : number = _ := paced.timely _ (time, .refused error number) future whole
    have first := paced.timely past (end_, .broken broken reason) _ (by simpa using split)
    have unheld : (paceOf (past ++ [(end_, .broken broken reason)])).holding = false := by
      rw [paceOfConcat]
      rfl
    have inRow := (failuresInRow (whole ▸ paced.timely).before unheld unopened).2
    have one : (paceOf (past ++ [(end_, .broken broken reason)])).failures = 1 := by
      rw [paceOfConcat]
      exact congrArg (· + 1) first.1
    rw [numbered, inRow, one]
    omega
  · intro error state phase completed
    have stepped : world.step source =
        some (({ world with source := state } : World State Item).refused error worker) := by
      simp [World.step, World.proceed, present, unordered, phase, completed]
    refine ⟨_, stepped, ?_⟩
    rw [← paced.nextCount]
    exact List.append_nil _
  · intro due phase quiet
    have keeps := paced.phase
    rw [phase] at keeps
    have early : world.clock ≤ due := keeps.2.2.1
    have reaches : (world.jump due).clock = due := Nat.max_eq_right early
    have rests (before : world.clock < due) : world.step source = none := by
      simp [World.step, World.proceed, present, unordered, phase, quiet, Nat.not_le.mpr before]
    have waited : OnTime source remote policy capacity (world.jump due) := by
      rcases Nat.lt_or_eq_of_le early with before | now
      · refine .elapse onTime (rests before) ?_
        intro other end_ there pausing
        obtain rfl := Option.some.inj (present.symm.trans there)
        rw [phase] at pausing
        exact Nat.le_of_eq (Phase.pausing.inj pausing)
      · have same : world.jump due = world := by simp [World.jump, ← now]
        rw [same]
        exact onTime
    have stepped : (world.jump due).step source =
        some ((world.jump due).beginOpen source worker) := by
      have there : (world.jump due).worker = some worker := present
      have silent : (world.jump due).coordinator.signalArrives = false := quiet
      simp [World.step, World.proceed, there, unordered, phase, silent, reaches]
    refine ⟨rests, _, .work waited stepped, stepped, ?_⟩
    have attempts : ((world.jump due).beginOpen source worker).attempts =
        world.attempts ++ [(world.jump due).clock] := by
      simp [World.beginOpen, World.attempts, World.record, World.setWorker, World.jump]
    rw [attempts, reaches]

/-- The attempts of a worker are paced by its policy, whatever fails and however often.
Even a worker that is late does not make them closer than the shortest delay. -/
theorem attemptsArePaced (reached : Reachable source remote capacity world)
    (present : world.worker = some worker) :
    (∀ policy, OnTime source remote policy capacity world →
      Pacing source remote policy capacity worker world) ∧
    ∀ shortest, (∀ failures, 1 ≤ failures → shortest ≤ (worker.policy failures).milliseconds) →
      Spaced shortest world := by
  refine ⟨fun policy onTime => onTime.pacing present, ?_⟩
  intro shortest enough
  have apart := (reached.apart present enough).apart
  exact ⟨apart, fun positive start span => attemptsInSpan positive apart start span⟩

/-- What a session does between two moments of rest takes no time. -/
theorem OnTime.settle (attends : ∀ clock state, remote state (source.attend clock state))
    (onTime : OnTime source remote policy capacity world) :
    OnTime source remote policy capacity (world.settle source) :=
  World.settleForKeeps (fun _ onTime => .aside onTime (.serve (attends _ _)) rfl)
    (fun _ _ onTime stepped => .work onTime stepped) _ onTime

/-- The delay grows by a second with every failure in a row. -/
def growing : RetryPolicy := fun failures => .ofSeconds failures

/-- The first attempt has failed. -/
def rebuffed : World (Script Nat) Nat :=
  let idle : World (Script Nat) Nat :=
    { source := { plan := [{ verdict := .refused "busy" }, { verdict := .refused "busy" }] } }
  (idle.spawn "heads" growing 0).settle Script.source

/-- The second attempt has failed as well. -/
def rebuffedAgain : World (Script Nat) Nat := (rebuffed.jump 1000).settle Script.source

theorem rebuffedAgainOnTime : OnTime Script.source Eq growing 0 rebuffedAgain := by
  have attends (clock : Nat) (state : Script Nat) : state = Script.source.attend clock state := rfl
  have first : OnTime Script.source Eq growing 0 rebuffed :=
    .settle attends (.start rfl .new "heads")
  have rests : rebuffed.step Script.source = none := by decide
  refine .settle attends (.elapse first rests ?_)
  intro worker due present pausing
  obtain rfl := Option.some.inj present
  exact Nat.le_of_eq (Phase.pausing.inj pausing)

/-- The third attempt comes two seconds after the second one, and no attempts are closer than one
second. -/
theorem attemptsArePacedRebuffed :
    (∃ next, (rebuffedAgain.jump 3000).step Script.source = some next ∧
      next.attempts = [0, 1000, 3000]) ∧ Spaced 1000 rebuffedAgain := by
  have present : rebuffedAgain.worker = some _ := rfl
  obtain ⟨onTime, spaced⟩ := attemptsArePaced rebuffedAgainOnTime.reachable present
  obtain ⟨_, next, _, stepped, attempts⟩ :=
    (onTime growing rebuffedAgainOnTime).goesOn 3000 rfl rfl
  have enough (failures : Nat) (positive : 1 ≤ failures) :
      1000 ≤ (growing failures).milliseconds := by
    rw [growing, Duration.millisecondsOfSeconds]
    omega
  exact ⟨⟨next, stepped, attempts⟩, spaced 1000 enough⟩

end NodeBridge.Observer
