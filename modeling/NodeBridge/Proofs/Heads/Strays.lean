import NodeBridge.Proofs.Heads.Opening
import NodeBridge.Proofs.Heads.Tracing
import Mathlib.Data.List.Perm.Subperm

/-
This file follows the subscriptions that a node confirms while a worker observes new headers.
An attempt that runs into its limit leaves its request behind, and whatever the node confirms
later is never ended, so such strays add up, but nothing else leaves one behind.
-/

namespace NodeBridge.Heads

open Observer

/-- A worker runs over a client, and the ledger of its connection is kept along.
The client and the node do what they want, and everybody else leaves the client alone. -/
inductive Accounted (pubsub : Bool) (limit : Duration) (capacity : Nat) :
    Scene → List Confirmed → Prop where
  | start {idle : Scene} (fresh : idle.history = []) (coordinator : idle.coordinator.Reachable)
      (node : Node) (unused : idle.source = { client := { node } }) (topic : String)
      (policy : RetryPolicy) :
      Accounted pubsub limit capacity (idle.spawn topic policy capacity) []
  | work {scene next : Scene} {ledger : List Confirmed}
      (accounted : Accounted pubsub limit capacity scene ledger)
      (stepped : scene.step (source pubsub limit) = some next) :
      Accounted pubsub limit capacity next ledger
  | traffic {scene : Scene} {ledger : List Confirmed}
      (accounted : Accounted pubsub limit capacity scene ledger) (deed : Deed)
      (allowed : scene.source.client.Allows deed) :
      Accounted pubsub limit capacity
        { scene with source := { scene.source with client := scene.source.client.undergo deed } }
        (scene.source.client.enter ledger deed)
  | around {scene next : Scene} {ledger : List Confirmed}
      (accounted : Accounted pubsub limit capacity scene ledger)
      (moved : Outside (fun _ _ => False) scene next) :
      Accounted pubsub limit capacity next ledger

variable {pubsub : Bool} {limit : Duration} {capacity : Nat} {scene next : Scene}
  {ledger : List Confirmed} {worker later : Worker Header}

/-- Every such run is one of the runs of a worker. -/
theorem Accounted.reachable (accounted : Accounted pubsub limit capacity scene ledger) :
    Reachable (source pubsub limit) Remote capacity scene := by
  induction accounted with
  | start fresh coordinator node unused topic policy => exact .start fresh coordinator topic policy
  | work _ stepped reached => exact .next reached (.work stepped)
  | traffic _ deed _ reached => exact .next reached (.outside (.serve ⟨_, rfl⟩))
  | around _ moved reached =>
      refine .next reached (.outside ?_)
      cases moved with
      | serve may => exact may.elim
      | elapse time => exact .elapse time
      | take taken => exact .take taken
      | leave => exact .leave
      | act allowed foreign => exact .act allowed foreign
      | log events => exact .log events
      | count call => exact .count call

/-- Somebody can keep a ledger up to here. -/
def Recorded (pubsub : Bool) (limit : Duration) (capacity : Nat) (scene : Scene) : Prop :=
  ∃ ledger, Accounted pubsub limit capacity scene ledger

/-- A client may do all its work of one moment. -/
theorem Recorded.attend (recorded : Recorded pubsub limit capacity scene) :
    Recorded pubsub limit capacity (scene.attend (source pubsub limit)) := by
  obtain ⟨ledger, accounted⟩ := recorded
  have along : ∀ client, Client.Course scene.source.client client →
      Recorded pubsub limit capacity
        { scene with source := { scene.source with client } } := by
    intro client course
    induction course with
    | refl => exact ⟨ledger, accounted⟩
    | tail _ does inductionHypothesis =>
        obtain ⟨deed, allowed, rfl⟩ := does
        obtain ⟨before, accounted⟩ := inductionHypothesis
        exact ⟨_, accounted.traffic deed allowed⟩
  exact along _ (Client.courseOfServing scene.clock scene.source.client)

/-- What happens in a session between two moments of rest can be recorded. -/
theorem Recorded.settle (recorded : Recorded pubsub limit capacity scene) :
    Recorded pubsub limit capacity (scene.settle (source pubsub limit)) :=
  World.settleForKeeps (fun _ before => before.attend)
    (fun _ _ ⟨ledger, accounted⟩ stepped => ⟨ledger, accounted.work stepped⟩) _ recorded

/-- This attempt ran into its limit. -/
def timedOut : Happening Header → Bool
  | .refused (.timedOut _) _ => true
  | _ => false

/-- So many attempts of the worker ran into their limit. -/
def timeouts (scene : Scene) : Nat := scene.chronicle.countP timedOut

theorem handOverHolds (number : Nat) (item : Header) (progress : Feed.Progress) (scene : Scene)
    (worker : Worker Header) : (scene.handOver worker number item progress).source = scene.source ∧
      ∃ later, (scene.handOver worker number item progress).worker = some later ∧
        later.cancelled = worker.cancelled ∧ later.phase.held? ≠ none := by
  cases progress with
  | accepted | closed | waits => exact ⟨rfl, _, rfl, rfl, by simp [Phase.held?]⟩

/-- A step of the worker keeps everything right. -/
theorem Kept.work {added : List (Happening Header)}
    (kept : Kept ledger (timeouts scene) worker scene.source)
    (present : scene.worker = some worker)
    (step : WorkerStep (source pubsub limit) worker scene added next) :
    ∃ later, next.worker = some later ∧ Kept ledger (timeouts next) later next.source := by
  have count : timeouts next = timeouts scene + added.countP timedOut := by
    rw [timeouts, step.chronicle, List.countP_append]
    rfl
  have grown : timeouts scene ≤ timeouts next := by omega
  by_cases closed : worker.phase.hasClosed = true
  · obtain ⟨_, _, rfl⟩ := step.closedBefore closed
    refine ⟨_, rfl, .more ?_ grown⟩
    exact kept.close rfl rfl rfl kept.books
  have unclosed : worker.phase.hasClosed = false := by simpa using closed
  cases step with
  | start phase =>
      have idle : ∀ request, ¬ Pursued request worker scene.source := by simp [Pursued, phase]
      exact ⟨_, rfl, (kept.beginOpen idle unclosed).more grown⟩
  | retry phase =>
      have idle : ∀ request, ¬ Pursued request worker scene.source := by simp [Pursued, phase]
      exact ⟨_, rfl, (kept.beginOpen idle unclosed).more grown⟩
  | subscribe phase completed =>
      have client := completedClient completed
      refine ⟨_, rfl, kept.goOn rfl unclosed client ?_⟩
      have placed := (kept.calm unclosed).placed
      exact (kept.traced.subscribed placed completed (by simp [Phase.held?])).more grown
  | @refuse error state phase completed =>
      have client := completedClient completed
      refine ⟨_, rfl, kept.goOn rfl unclosed client ?_⟩
      refine kept.traced.refused phase completed grown (fun limit late => ?_) rfl
      rw [count, late]
      exact Nat.lt_add_of_pos_right (by simp [timedOut])
  | deliver phase _ ready =>
      have holds : worker.phase.held? ≠ none := by simp [phase, Phase.held?]
      obtain ⟨client, traced⟩ := kept.traced.deliver holds ready
      refine ⟨_, rfl, kept.goOn rfl unclosed client ?_⟩
      exact (traced (by simp [Phase.held?])).more grown
  | remark phase _ ready =>
      have holds : worker.phase.held? ≠ none := by simp [phase, Phase.held?]
      obtain ⟨client, traced⟩ := kept.traced.deliver holds ready
      exact ⟨worker, present, kept.goOn rfl unclosed client ((traced holds).more grown)⟩
  | @fail number error state phase _ ready =>
      obtain ⟨handle, held, inside⟩ := kept.traced.held (by simp [phase, Phase.held?])
      obtain ⟨place, looked, same⟩ := deliveredOnce held ready
      have client := congrArg Holder.client same
      refine ⟨_, rfl, kept.goOn rfl unclosed client ?_⟩
      -- A subscription that nobody has closed ends only with its client.
      have gone : scene.source.client.link = .gone := by
        by_contra still
        have there := List.getElem?_eq_getElem inside
        have live := (kept.calm unclosed).live still _ _ there
        have found := congrArg Prod.fst looked
        simp only [Subscription.look, Client.broadcastOf, there] at found
        exact endlessRead live error _ _ found
      have left : state.client.link = .gone := by rw [client, gone]
      exact .giveUp left rfl
  | ignore phase =>
      refine ⟨_, rfl, kept.goOn rfl unclosed rfl ?_⟩
      have held := kept.traced.held (by simp [phase, Phase.held?])
      exact (kept.traced.settle rfl (.inl (by simp [Phase.held?])) fun _ => held).more grown
  | @offer number item phase =>
      obtain ⟨source, later, there, cancelled, holds⟩ := handOverHolds number item
        (scene.channel.offer item).1 { scene with channel := (scene.channel.offer item).2 } worker
      refine ⟨later, there, ?_⟩
      rw [source]
      have held := kept.traced.held (by simp [phase, Phase.held?])
      exact kept.goOn cancelled unclosed rfl
        ((kept.traced.settle rfl (.inl holds) fun _ => held).more grown)
  | @poll number ticket item phase =>
      obtain ⟨source, later, there, cancelled, holds⟩ := handOverHolds number item
        (scene.channel.poll ticket).1 { scene with channel := (scene.channel.poll ticket).2 } worker
      refine ⟨later, there, ?_⟩
      rw [source]
      have held := kept.traced.held (by simp [phase, Phase.held?])
      exact kept.goOn cancelled unclosed rfl
        ((kept.traced.settle rfl (.inl holds) fun _ => held).more grown)
  | leave heeds =>
      have source : (scene.leave worker).source = scene.source :=
        (World.leaveKeeps worker scene).2.2.1
      refine ⟨_, rfl, ?_⟩
      rw [source]
      refine kept.goOn rfl unclosed rfl (.more ?_ grown)
      by_cases holds : worker.phase.held? = none
      · refine kept.traced.depart (fun request => ?_) holds
        cases phase : worker.phase <;> simp_all [Pursued, Worker.heeds, Phase.held?]
      · exact kept.traced.settle rfl (.inl holds) fun _ => kept.traced.held holds
  | close phase =>
      refine ⟨_, rfl, .more ?_ grown⟩
      exact kept.release rfl rfl (by simp [phase, Phase.held?])
  | spare =>
      refine ⟨_, rfl, .more ?_ grown⟩
      exact kept.close rfl rfl rfl kept.books
  | finish phase =>
      rw [phase] at unclosed
      contradiction

theorem keptAtStart (node : Node) (topic : String) (policy : RetryPolicy) (token count : Nat) :
    Kept [] count { topic, policy, token } { client := { node } } where
  unordered := rfl
  books := Client.Books.booksAtStart node
  calm _ := Client.Calm.calmAtStart node
  traced := ⟨⟨[], Nat.zero_le _, fun _ below => absurd below (Nat.not_lt_zero _)⟩,
    fun holds => absurd rfl holds⟩

/-- Others neither touch the client nor let an attempt run into its limit. -/
theorem outsideKeeps (moved : Outside (fun _ _ => False) scene next) :
    next.source = scene.source ∧ timeouts next = timeouts scene := by
  have source : next.source = scene.source := by
    cases moved with
    | serve may => exact may.elim
    | take taken =>
        obtain ⟨channel, _, rfl⟩ := World.takeCases taken
        rfl
    | elapse | leave | act | log | count => rfl
  obtain ⟨items, added⟩ := moved.chronicleAdds
  have none : (items.map Happening.taken).countP timedOut = 0 := by
    rw [List.countP_map]
    exact List.countP_eq_zero.mpr nofun
  exact ⟨source, by rw [timeouts, added, List.countP_append, none]; rfl⟩

/-- Everything that is kept is right in every accounted run. -/
theorem Accounted.kept (accounted : Accounted pubsub limit capacity scene ledger)
    (present : scene.worker = some worker) :
    Kept ledger (timeouts scene) worker scene.source := by
  induction accounted generalizing worker with
  | @start idle fresh coordinator node unused topic policy =>
      obtain rfl := Option.some.inj present
      have source : (idle.spawn topic policy capacity).source = { client := { node } } := unused
      rw [source]
      exact keptAtStart node topic policy _ _
  | work accounted stepped inductionHypothesis =>
      obtain ⟨before, there, unordered⟩ := accounted.reachable.staffed
      obtain ⟨added, step⟩ := World.stepCases there unordered stepped
      obtain ⟨later, now, kept⟩ := (inductionHypothesis there).work there step
      exact Option.some.inj (now.symm.trans present) ▸ kept
  | traffic _ deed allowed inductionHypothesis =>
      exact (inductionHypothesis present).undergo allowed
  | around _ moved inductionHypothesis =>
      obtain ⟨source, count⟩ := outsideKeeps moved
      rw [source, count]
      exact inductionHypothesis (moved.workerSame.symm.trans present)

/-- The worker holds a subscription, or its attempt has one for it. -/
inductive Claimed (worker : Worker Header) (scene : Scene) : Prop where
  | held (handle : Handle) (holds : worker.phase.held? ≠ none)
      (there : scene.source.subscription = some ⟨some handle⟩)
  | obtained (handle : Handle) (attempt : Attempt) (phase : worker.phase = .opening)
      (under : scene.source.attempt = some attempt)
      (ready : completion? scene.clock scene.source.client attempt = some (.ok handle))

/-- An entry of the ledger belongs to a spent request or to the newest one. -/
theorem Kept.entryTraced {count : Nat} {holder : Holder} (kept : Kept ledger count worker holder) :
    ∃ spent : List Nat, spent.length ≤ count ∧ ∀ entry ∈ ledger, entry.request ∈ spent ∨
      Pursued entry.request worker holder := by
  obtain ⟨spent, few, fates⟩ := kept.traced.fates
  refine ⟨spent, few, fun entry member => ?_⟩
  obtain ⟨_, granted⟩ := kept.books.settled entry member
  have connected := kept.books.linked (List.ne_nil_of_mem member)
  obtain ⟨handle, found⟩ := granted
  rcases fates entry.request (kept.books.answeredBefore found) with old | pursued | refused | gone
  · exact .inl old
  · exact .inr pursued
  · exact absurd refused (Client.Granted.unrefused ⟨handle, found⟩)
  · rw [connected] at gone
    contradiction

/-- There are no more confirmed subscriptions than spent requests and one. -/
theorem Kept.bound {count : Nat} {holder : Holder} (kept : Kept ledger count worker holder) :
    ledger.length ≤ count + 1 := by
  obtain ⟨spent, few, traced⟩ := kept.entryTraced
  have inside : ledger.map Confirmed.request ⊆ (holder.client.nextRequest - 1) :: spent := by
    intro request member
    obtain ⟨entry, there, rfl⟩ := List.mem_map.mp member
    rcases traced entry there with old | ⟨newest, _⟩
    · exact List.mem_cons_of_mem _ old
    · exact List.mem_cons.mpr (.inl (by omega))
  have short := (List.subperm_of_subset kept.books.distinct inside).length_le
  rw [List.length_map, List.length_cons] at short
  omega

/-- Without a spent request the one confirmed subscription is known to the client, and the worker
holds it or is about to. -/
theorem Kept.claimed (kept : Kept ledger 0 worker scene.source)
    (unclosed : worker.phase.hasClosed = false) {confirmed : Confirmed}
    (member : confirmed ∈ ledger) :
    Claimed worker scene ∧ ∃ shared, scene.source.client.shared = some shared ∧
      shared.server = some confirmed.server := by
  obtain ⟨spent, few, traced⟩ := kept.entryTraced
  obtain rfl : spent = [] := List.length_eq_zero_iff.mp (Nat.le_zero.mp few)
  have pursued : Pursued confirmed.request worker scene.source :=
    (traced confirmed member).resolve_left nofun
  constructor
  · obtain ⟨_, pursuit⟩ := pursued
    by_cases holds : worker.phase.held? = none
    · cases phase : worker.phase with
      | opening =>
          rw [phase] at pursuit
          obtain ⟨deadline, limit, under⟩ := pursuit
          obtain ⟨_, handle, found⟩ := kept.books.settled confirmed member
          exact .obtained handle _ phase under (by simp only [completion?, found])
      | created | pausing =>
          rw [phase] at pursuit
          exact pursuit.elim
      | leaving held =>
          obtain rfl : held = none := by simpa [phase, Phase.held?] using holds
          rw [phase] at pursuit
          exact pursuit.elim
      | watching | handing | blocked => simp [phase, Phase.held?] at holds
      | ending | finished | stopped => simp [phase, Phase.hasClosed, Phase.isOver] at unclosed
    · obtain ⟨handle, there, _⟩ := kept.traced.held holds
      exact .held handle holds there
  · have single := kept.bound
    obtain ⟨only, rfl⟩ := List.length_eq_one_iff.mp
      (Nat.le_antisymm single (List.length_pos_of_mem member))
    obtain rfl := List.mem_singleton.mp member
    exact (kept.calm unclosed).known confirmed rfl

/-- A worker that still holds a subscription asks for its end before its own. -/
theorem Kept.releases {count number : Nat} (kept : Kept ledger count worker scene.source)
    (holds : worker.phase.held? ≠ none) :
    (scene.closeHeld (source pubsub limit) (some number) worker).source.client.link = .gone ∨
      .unsubscribe ∈
        (scene.closeHeld (source pubsub limit) (some number) worker).source.client.queue := by
  obtain ⟨handle, held, _⟩ := kept.traced.held holds
  have closed : (scene.closeHeld (source pubsub limit) (some number) worker).source =
      scene.source.close.1 := rfl
  rw [closed]
  rcases closeEither handle scene.source.client with ⟨gone, declined⟩ | accepted
  · exact .inl (by simp only [Holder.close, held, declined, gone])
  · exact .inr (by simp [Holder.close, held, accepted])

/-- The confirmed subscriptions are no more than the attempts that ran into their limit and one.
As long as no attempt did, the worker holds what is confirmed or is about to, and before its end it
asks for the end of what it holds. Before that it asks for no end, not even of what it never held. -/
theorem onlyTimeoutsLeaveStrays (accounted : Accounted pubsub limit capacity scene ledger)
    (present : scene.worker = some worker) :
    ledger.length ≤ timeouts scene + 1 ∧
      (worker.phase.hasClosed = false → .unsubscribe ∉ scene.source.client.queue ∧
        (timeouts scene = 0 → ∀ confirmed ∈ ledger, Claimed worker scene ∧
          ∃ shared, scene.source.client.shared = some shared ∧
            shared.server = some confirmed.server)) ∧
      ∀ next later, scene.step (source pubsub limit) = some next → next.worker = some later →
        later.phase.hasClosed = true → worker.phase.held? ≠ none →
          next.source.client.link = .gone ∨ .unsubscribe ∈ next.source.client.queue := by
  have kept := accounted.kept present
  refine ⟨kept.bound,
    fun unclosed => ⟨(kept.calm unclosed).patient, fun never confirmed member => ?_⟩,
    fun next later stepped there closed holds => ?_⟩
  · rw [never] at kept
    exact kept.claimed unclosed member
  · obtain ⟨added, step⟩ := World.stepCases present kept.unordered stepped
    obtain ⟨number, rfl⟩ := step.closesHeld present there closed holds
    exact kept.releases holds

section Late

/-- The worker has one second for an attempt, and it tries again at once. -/
def hasty : Source Holder Header := source true (.ofSeconds 1)

def workOn (scene : Scene) : Scene := (scene.step hasty).getD scene

def undergo (deed : Deed) (scene : Scene) : Scene :=
  { scene with source := { scene.source with client := scene.source.client.undergo deed } }

/-- A request is sent, its attempt runs into the limit, and only then it is confirmed. -/
def confirmedLate : Scene :=
  let idle : Scene := { source := {} }
  let asked := undergo .send (workOn (idle.spawn topic .immediate 1))
  undergo (.reply 0 (.result (.integer 1))) (workOn (asked.jump 1000))

/-- Without a delay the same request is confirmed in time. -/
def confirmedInTime : Scene :=
  let idle : Scene := { source := {} }
  let asked := undergo .send (workOn (idle.spawn topic .immediate 1))
  workOn (undergo (.reply 0 (.result (.integer 1))) asked)

/-- The next attempt is confirmed as well. -/
def confirmedTwice : Scene :=
  workOn (undergo (.reply 1 (.result (.integer 2))) (undergo .send (workOn confirmedLate)))

/-- The signal comes, and everything that the worker asks for before its end is sent. -/
def leftBehind : Scene :=
  undergo .send (workOn (workOn (workOn (confirmedTwice.act .trigger))))

theorem accountedWork {scene : Scene} {ledger : List Confirmed}
    (accounted : Accounted true (.ofSeconds 1) 1 scene ledger)
    (ready : (scene.step hasty).isSome = true) :
    Accounted true (.ofSeconds 1) 1 (workOn scene) ledger := by
  obtain ⟨next, stepped⟩ := Option.isSome_iff_exists.mp ready
  rw [workOn, stepped]
  exact accounted.work stepped

theorem askedAccounted : Accounted true (.ofSeconds 1) 1
    (undergo .send (workOn (World.spawn topic .immediate 1 ({ source := {} } : Scene)))) [] := by
  have started : Accounted true (.ofSeconds 1) 1
      (World.spawn topic .immediate 1 ({ source := {} } : Scene)) [] :=
    .start rfl .new {} rfl topic .immediate
  exact (accountedWork started rfl).traffic .send trivial

theorem confirmedInTimeAccounted :
    Accounted true (.ofSeconds 1) 1 confirmedInTime [⟨0, .number 1⟩] :=
  accountedWork
    (askedAccounted.traffic (.reply 0 (.result (.integer 1))) ⟨rfl, List.not_mem_nil⟩) rfl

theorem confirmedLateAccounted :
    Accounted true (.ofSeconds 1) 1 confirmedLate [⟨0, .number 1⟩] := by
  have late := accountedWork (askedAccounted.around (.elapse 1000)) rfl
  exact late.traffic (.reply 0 (.result (.integer 1))) ⟨rfl, List.not_mem_nil⟩

theorem confirmedTwiceAccounted :
    Accounted true (.ofSeconds 1) 1 confirmedTwice [⟨0, .number 1⟩, ⟨1, .number 2⟩] := by
  have asked := (accountedWork confirmedLateAccounted rfl).traffic .send trivial
  exact accountedWork
    (asked.traffic (.reply 1 (.result (.integer 2))) ⟨rfl, List.not_mem_nil⟩) rfl

theorem leftBehindAccounted :
    Accounted true (.ofSeconds 1) 1 leftBehind [⟨0, .number 1⟩] := by
  have signalled : Accounted true (.ofSeconds 1) 1 (confirmedTwice.act .trigger) _ :=
    confirmedTwiceAccounted.around (.act rfl fun _ _ => nofun)
  have ended := accountedWork (accountedWork (accountedWork signalled rfl) rfl) rfl
  exact ended.traffic .send trivial

/-- What is confirmed in time is held, and one attempt out of time leaves room for one stray. -/
theorem onlyTimeoutsLeaveStraysInTime :
    (∃ worker, confirmedInTime.worker = some worker ∧ timeouts confirmedInTime = 0 ∧
      Claimed worker confirmedInTime) ∧
    ∃ worker, confirmedTwice.worker = some worker ∧ timeouts confirmedTwice = 1 ∧
      [Confirmed.mk 0 (.number 1), ⟨1, .number 2⟩].length ≤ timeouts confirmedTwice + 1 ∧
      .unsubscribe ∉ confirmedTwice.source.client.queue := by
  constructor
  · have present : confirmedInTime.worker = some _ := rfl
    have never : timeouts confirmedInTime = 0 := rfl
    obtain ⟨_, going, _⟩ := onlyTimeoutsLeaveStrays confirmedInTimeAccounted present
    exact ⟨_, present, never, ((going rfl).2 never _ List.mem_cons_self).1⟩
  · have present : confirmedTwice.worker = some _ := rfl
    obtain ⟨bound, going, _⟩ := onlyTimeoutsLeaveStrays confirmedTwiceAccounted present
    exact ⟨_, present, rfl, bound, (going rfl).1⟩

/-- A subscription that is confirmed after its attempt has failed belongs to nobody and nobody asks
for its end, with the next attempt there are two, and the stray stays behind when all is over. -/
theorem lateConfirmationLeaks :
    (Accounted true (.ofSeconds 1) 1 confirmedLate [⟨0, .number 1⟩] ∧
      ∃ worker, confirmedLate.worker = some worker ∧ ¬ Claimed worker confirmedLate ∧
        .unsubscribe ∉ confirmedLate.source.client.queue) ∧
    Accounted true (.ofSeconds 1) 1 confirmedTwice [⟨0, .number 1⟩, ⟨1, .number 2⟩] ∧
    Accounted true (.ofSeconds 1) 1 leftBehind [⟨0, .number 1⟩] ∧
      ∃ worker, leftBehind.worker = some worker ∧ worker.phase = .finished ∧
        leftBehind.source.client.queue.length = 0 := by
  refine ⟨⟨confirmedLateAccounted, _, rfl, ?_, List.not_mem_nil⟩, confirmedTwiceAccounted,
    leftBehindAccounted, _, rfl, rfl, rfl⟩
  have unheld : confirmedLate.source.subscription = none := rfl
  have unasked : confirmedLate.source.attempt = none := rfl
  rintro (⟨handle, _, there⟩ | ⟨handle, attempt, _, under⟩)
  · rw [unheld] at there
    contradiction
  · rw [unasked] at under
    contradiction

end Late

end NodeBridge.Heads
