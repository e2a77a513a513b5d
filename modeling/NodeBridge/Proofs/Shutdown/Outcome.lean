import NodeBridge.Proofs.Duration
import NodeBridge.Proofs.Shutdown.Waiting
import Mathlib.Data.Bool.Count

/-
This file says what becomes of a wait for the tokens of a coordinator, with or without a limit.
Everybody acts in any order, time passes only while all waiters sleep, and no deadline is missed.
-/

namespace NodeBridge.Shutdown

/-- Those who act on a coordinator share a clock. -/
structure Moment where
  clock : Nat := 0
  coordinator : Coordinator := {}

namespace Moment

def act (action : Action) (moment : Moment) : Moment :=
  { moment with coordinator := (moment.coordinator.perform moment.clock action).1 }

/-- This is what an action reports if it takes place now. -/
def reports (action : Action) (moment : Moment) : List Event :=
  (moment.coordinator.perform moment.clock action).2

/-- The clock moves on, and the sleepers of that time wake up. -/
def jump (time : Nat) (moment : Moment) : Moment :=
  { clock := time, coordinator := moment.coordinator.wakeDue time }

/-- No waiter is about to look. -/
def Rests (moment : Moment) : Prop :=
  ∀ waiter ∈ moment.coordinator.waiters, waiter.phase ≠ .scheduled

/-- This waiter is about to look. -/
def IsReady (index : Nat) (moment : Moment) : Prop :=
  moment.coordinator.waiters[index]?.map Waiter.phase = some .scheduled

instance (index : Nat) (moment : Moment) : Decidable (moment.IsReady index) :=
  inferInstanceAs (Decidable (_ = _))

end Moment

/-- A course keeps every action with the moment in which it took place. -/
inductive Course (first : Moment) : List (Moment × Action) → Moment → Prop where
  | start : Course first [] first
  | act {past : List (Moment × Action)} {moment : Moment} {action : Action}
      (course : Course first past moment) (allowed : moment.coordinator.Allows action) :
      Course first (past ++ [(moment, action)]) (moment.act action)
  | elapse {past : List (Moment × Action)} {moment : Moment} {time : Nat}
      (course : Course first past moment) (later : moment.clock ≤ time) (rests : moment.Rests)
      (inTime : ∀ waiter ∈ moment.coordinator.waiters, waiter.phase = .parked →
        ∀ deadline, waiter.deadline = some deadline → time ≤ deadline) :
      Course first past (moment.jump time)

/-- A waiter looks at these moments. -/
def looks (index : Nat) (past : List (Moment × Action)) : List Moment :=
  past.filterMap fun (moment, action) =>
    if action = .look index ∧ moment.IsReady index then some moment else none

/-- A waiter reports this when it looks. -/
def reported (index : Nat) (past : List (Moment × Action)) : List Event :=
  past.flatMap fun (moment, action) =>
    if action = .look index then moment.reports action else []

/-- Less time than the limit has passed since then on a clock of milliseconds. -/
def Early (limit : Option Duration) (since now : Nat) : Prop :=
  ∀ span passed, limit = some span → now = since + passed → .ofMilliseconds passed < span

/-- At no time before this one the limit was over. -/
def InTime (limit : Option Duration) (since now : Nat) : Prop :=
  ∀ earlier, earlier < now → Early limit since earlier

/-- This is the first time at which the limit is over. -/
def Expires (span : Duration) (since now : Nat) : Prop :=
  InTime (some span) since now ∧ ∃ passed, now = since + passed ∧ span ≤ .ofMilliseconds passed

/-- Somebody held a token at each of these moments, and the limit was not over. -/
def InVain (limit : Option Duration) (since : Nat) (seen : List Moment) : Prop :=
  ∀ look ∈ seen, look.coordinator.outstanding ≠ 0 ∧ Early limit since look.clock

/-- The looks of a waiter and the clock decide on its phase, and only a failure is reported. -/
def Outcome (limit : Option Duration) (since : Nat) (moment : Moment) (seen : List Moment)
    (report : List Event) : Phase → Prop
  | .scheduled => InVain limit since seen ∧ InTime limit since moment.clock ∧ report = []
  | .parked => InVain limit since seen ∧ moment.coordinator.outstanding ≠ 0 ∧
      Early limit since moment.clock ∧ report = []
  | .returned true => ∃ earlier last, seen = earlier ++ [last] ∧ InVain limit since earlier ∧
      last.coordinator.outstanding = 0 ∧ InTime limit since last.clock ∧ report = []
  | .returned false => ∃ span earlier last, limit = some span ∧ seen = earlier ++ [last] ∧
      InVain limit since earlier ∧ last.coordinator.outstanding ≠ 0 ∧
      Expires span since last.clock ∧
      report = [Coordinator.deadlineEvent last.coordinator.outstanding span]

variable {first moment : Moment} {past : List (Moment × Action)} {limit : Option Duration}
  {since index : Nat} {waiter : Waiter} {seen : List Moment} {report : List Event}

theorem looksConcat (index : Nat) (past : List (Moment × Action)) (moment : Moment)
    (action : Action) : looks index (past ++ [(moment, action)]) =
      looks index past ++
        if action = .look index ∧ moment.IsReady index then [moment] else [] := by
  simp only [looks, List.filterMap_append]
  congr 1
  split <;> simp_all

theorem reportedConcat (index : Nat) (past : List (Moment × Action)) (moment : Moment)
    (action : Action) : reported index (past ++ [(moment, action)]) =
      reported index past ++ if action = .look index then moment.reports action else [] := by
  simp [reported]

namespace Moment

theorem readyIff (found : moment.coordinator.waiters[index]? = some waiter) :
    moment.IsReady index ↔ waiter.phase = .scheduled := by
  simp [IsReady, found]

/-- Whoever is not about to look has nothing to report. -/
theorem reportsIdle (found : moment.coordinator.waiters[index]? = some waiter) {action : Action}
    (idle : ¬ (action = .look index ∧ waiter.phase = .scheduled)) :
    (if action = .look index then moment.reports action else []) = [] := by
  split
  case isTrue own =>
    have unscheduled : waiter.phase ≠ .scheduled := fun scheduled => idle ⟨own, scheduled⟩
    simp [own, reports, Coordinator.perform, Coordinator.poll, found, Coordinator.look, unscheduled]
  case isFalse => rfl

theorem reportsLook (found : moment.coordinator.waiters[index]? = some waiter) :
    moment.reports (.look index) = (moment.coordinator.look moment.clock waiter).2 := by
  simp [reports, Coordinator.perform, Coordinator.poll, found]

end Moment

section Limits

variable {now : Nat}

/-- A timer that is set to the limit has not gone off before its end. -/
theorem earlyIff : Early limit since now ↔
    ∀ span, limit = some span → now < since + span.milliseconds := by
  constructor
  · intro early span limited
    rcases Nat.lt_or_ge now since with before | after
    · omega
    · obtain ⟨passed, rfl⟩ := Nat.exists_eq_add_of_le after
      exact Nat.add_lt_add_left (Duration.ltMilliseconds.mpr (early span passed limited rfl)) since
  · rintro sooner span passed limited rfl
    exact Duration.ltMilliseconds.mp (Nat.add_lt_add_iff_left.mp (sooner span limited))

theorem inTimeIff : InTime limit since now ↔
    ∀ span, limit = some span → now ≤ since + span.milliseconds := by
  constructor
  · intro inTime span limited
    by_contra late
    have early := earlyIff.mp (inTime (since + span.milliseconds) (by omega)) span limited
    omega
  · intro sooner earlier before
    refine earlyIff.mpr fun span limited => ?_
    have := sooner span limited
    omega

theorem expiresIff {span : Duration} :
    Expires span since now ↔ now = since + span.milliseconds := by
  constructor
  · rintro ⟨inTime, passed, rfl, elapsed⟩
    have sooner := inTimeIff.mp inTime span rfl
    have late := Duration.millisecondsLe.mpr elapsed
    omega
  · rintro rfl
    refine ⟨inTimeIff.mpr ?_, span.milliseconds, rfl, Duration.millisecondsLe.mp (Nat.le_refl _)⟩
    rintro _ ⟨⟩
    exact Nat.le_refl _

theorem Early.inTime (early : Early limit since now) : InTime limit since now :=
  inTimeIff.mpr fun span limited => Nat.le_of_lt (earlyIff.mp early span limited)

end Limits

theorem InVain.concat (inVain : InVain limit since seen)
    (busy : moment.coordinator.outstanding ≠ 0) (early : Early limit since moment.clock) :
    InVain limit since (seen ++ [moment]) := by
  intro look member
  rcases List.mem_append.mp member with before | last
  · exact inVain look before
  · obtain rfl := List.mem_singleton.mp last
    exact ⟨busy, early⟩

/-- A waiter of this limit has waited since a time and is in this phase. -/
def waiterOf (limit : Option Duration) (since : Nat) (phase : Phase) : Waiter :=
  { limit, deadline := limit.map fun span => since + span.milliseconds, phase }

namespace Outcome

/-- The look of a waiter settles the wait, or the waiter goes to sleep for a token. -/
theorem look (outcome : Outcome limit since moment seen report .scheduled) :
    Outcome limit since (moment.act (.look index)) (seen ++ [moment])
      (report ++ (moment.coordinator.look moment.clock (waiterOf limit since .scheduled)).2)
      (moment.coordinator.look moment.clock (waiterOf limit since .scheduled)).1 := by
  obtain ⟨inVain, inTime, rfl⟩ := outcome
  have cases := moment.coordinator.lookCases moment.clock
    (show (waiterOf limit since .scheduled).phase = .scheduled from rfl)
  rcases cases with ⟨nobody, result⟩ | ⟨somebody, span, deadline, limited, ends, due, result⟩ |
    ⟨somebody, early, result⟩
  · rw [result]
    exact ⟨seen, moment, rfl, inVain, nobody, inTime, rfl⟩
  · rw [result]
    obtain rfl : limit = some span := limited
    obtain rfl : since + span.milliseconds = deadline := Option.some.inj ends
    have exact : moment.clock = since + span.milliseconds :=
      Nat.le_antisymm (inTimeIff.mp inTime span rfl) due
    exact ⟨span, seen, moment, rfl, rfl, inVain, somebody, expiresIff.mpr exact, rfl⟩
  · rw [result]
    have before : Early limit since moment.clock := by
      refine earlyIff.mpr fun span limited => ?_
      exact early span _ limited (by simp [waiterOf, limited])
    refine ⟨inVain.concat somebody before, ?_, before, rfl⟩
    rw [Moment.act, Coordinator.perform, Coordinator.outstandingPoll]
    exact somebody

theorem wake {later : Moment} (outcome : Outcome limit since moment seen report .parked)
    (inTime : InTime limit since later.clock) :
    Outcome limit since later seen report .scheduled :=
  ⟨outcome.1, inTime, outcome.2.2.2⟩

/-- A waiter that is left alone stays as it is as long as it has a reason to sleep. -/
theorem rest {later : Moment} {phase : Phase}
    (outcome : Outcome limit since moment seen report phase)
    (scheduled : phase = .scheduled → InTime limit since later.clock)
    (parked : phase = .parked →
      later.coordinator.outstanding ≠ 0 ∧ Early limit since later.clock) :
    Outcome limit since later seen report phase := by
  match phase, outcome with
  | .scheduled, ⟨inVain, _, silent⟩ => exact ⟨inVain, scheduled rfl, silent⟩
  | .parked, ⟨inVain, _, _, silent⟩ =>
      exact ⟨inVain, (parked rfl).1, (parked rfl).2, silent⟩
  | .returned true, settled => exact settled
  | .returned false, settled => exact settled

end Outcome

/-- A waiter has a place, and what it saw there decides on its phase. -/
def Waits (limit : Option Duration) (since index : Nat) (past : List (Moment × Action))
    (moment : Moment) : Prop :=
  ∃ phase, moment.coordinator.waiters[index]? = some (waiterOf limit since phase) ∧
    Outcome limit since moment (looks index past) (reported index past) phase

namespace Waits

theorem act {action : Action} (waits : Waits limit since index past moment)
    (awake : (moment.act action).coordinator.Awake) :
    Waits limit since index (past ++ [(moment, action)]) (moment.act action) := by
  obtain ⟨phase, found, outcome⟩ := waits
  obtain ⟨later, there, stirred⟩ := Coordinator.stirs found moment.clock action
  refine ⟨later, there, ?_⟩
  have unseen (idle : ¬ (action = .look index ∧ phase = .scheduled)) :
      looks index (past ++ [(moment, action)]) = looks index past ∧
        reported index (past ++ [(moment, action)]) = reported index past := by
    have unready : ¬ (action = .look index ∧ moment.IsReady index) := fun both =>
      idle ⟨both.1, (Moment.readyIff found).mp both.2⟩
    rw [looksConcat, reportedConcat, Moment.reportsIdle found idle, if_neg unready]
    exact ⟨List.append_nil _, List.append_nil _⟩
  cases stirred with
  | look own scheduled =>
      obtain rfl : phase = .scheduled := scheduled
      subst own
      rw [looksConcat, reportedConcat, if_pos rfl, Moment.reportsLook found,
        if_pos ⟨rfl, (Moment.readyIff found).mpr rfl⟩]
      exact outcome.look
  | wake parked =>
      obtain rfl : phase = .parked := parked
      obtain ⟨looks, reports⟩ := unseen (by simp)
      rw [looks, reports]
      exact outcome.wake outcome.2.2.1.inTime
  | rest idle =>
      obtain ⟨looks, reports⟩ := unseen idle
      rw [looks, reports]
      refine outcome.rest ?_ ?_
      · rintro rfl
        exact outcome.2.1
      · rintro rfl
        exact ⟨awake index _ there rfl, outcome.2.2.1⟩

/-- Time wakes a sleeper exactly at its deadline. -/
theorem elapse {time : Nat} (waits : Waits limit since index past moment) (rests : moment.Rests)
    (inTime : ∀ waiter ∈ moment.coordinator.waiters, waiter.phase = .parked →
      ∀ deadline, waiter.deadline = some deadline → time ≤ deadline) :
    Waits limit since index past (moment.jump time) := by
  obtain ⟨phase, found, outcome⟩ := waits
  have member := List.mem_of_getElem? found
  have woken : (moment.jump time).coordinator.waiters[index]? =
      some (Coordinator.wakeAt time (waiterOf limit since phase)) := by
    simp [Moment.jump, Coordinator.wakeDue, found]
  rcases Coordinator.wakeAtCases time (waiterOf limit since phase) with
    ⟨parked, _, wakes⟩ | ⟨early, same⟩
  · obtain rfl : phase = .parked := parked
    refine ⟨.scheduled, woken.trans (congrArg some wakes), outcome.wake (inTimeIff.mpr ?_)⟩
    intro span limited
    exact inTime _ member rfl _ (by simp [waiterOf, limited])
  · refine ⟨phase, woken.trans (congrArg some same), outcome.rest ?_ ?_⟩
    · rintro rfl
      exact absurd rfl (rests _ member)
    · rintro rfl
      refine ⟨outcome.2.1, earlyIff.mpr fun span limited => ?_⟩
      exact early rfl _ (by simp [waiterOf, limited])

end Waits

theorem Course.reachable (course : Course first past moment)
    (reached : first.coordinator.Reachable) : moment.coordinator.Reachable ∧
      ∀ entry ∈ past, entry.1.coordinator.Reachable := by
  induction course with
  | start => exact ⟨reached, by simp⟩
  | @act past moment action course allowed inductionHypothesis =>
      obtain ⟨now, before⟩ := inductionHypothesis
      refine ⟨.next now moment.clock action allowed, ?_⟩
      intro entry member
      rcases List.mem_append.mp member with earlier | last
      · exact before entry earlier
      · exact List.mem_singleton.mp last ▸ now
  | elapse course later rests inTime inductionHypothesis =>
      exact ⟨.next inductionHypothesis.1 _ .wakeDue trivial, inductionHypothesis.2⟩

theorem Course.endedKept {token : Nat} (course : Course first past moment)
    (ended : first.coordinator.tokens[token]? = some false) :
    moment.coordinator.tokens[token]? = some false := by
  induction course with
  | start => exact ended
  | act _ _ inductionHypothesis => exact Coordinator.endedKept _ _ inductionHypothesis
  | elapse _ _ _ _ inductionHypothesis => exact inductionHypothesis

/-- From its beginning on a wait is decided by what the waiter sees. -/
theorem Course.waits (reached : first.coordinator.Reachable)
    (allowed : first.coordinator.Allows (.startWait limit))
    (course : Course (first.act (.startWait limit)) past moment) :
    Waits limit first.clock first.coordinator.waiters.length past moment := by
  have started : (first.act (.startWait limit)).coordinator.Reachable :=
    .next reached first.clock _ allowed
  induction course with
  | start =>
      refine ⟨.scheduled, List.getElem?_concat_length, ?_, ?_, rfl⟩
      · intro look member
        cases member
      · exact inTimeIff.mpr fun span _ => Nat.le_add_right _ _
  | act course allowed inductionHypothesis =>
      exact inductionHypothesis.act
        (Coordinator.awakePerform (course.reachable started).1.awake _ _)
  | elapse course later rests inTime inductionHypothesis =>
      exact inductionHypothesis.elapse rests inTime

/-- This is the account of the tokens at any moment, whoever acted before and in which order. -/
structure Coordinator.Exact (coordinator : Coordinator) : Prop where
  /-- Every token that was issued is outstanding or released. -/
  issued : coordinator.tokens.length = coordinator.outstanding + coordinator.released
  /-- Outstanding are exactly the tokens that have not ended. -/
  pending : coordinator.outstanding = coordinator.tokens.count true
  /-- Whoever ends a token takes away one that is there. -/
  ends : ∀ token : Nat, coordinator.tokens[token]? = some true →
    coordinator.outstanding = (coordinator.finish token).outstanding + 1 ∧
      (coordinator.finish token).released = coordinator.released + 1
  /-- A token that ended ends only once, however often its end is asked for, now and later. -/
  once : ∀ (now token : Nat) past later, Course ⟨now, coordinator.finish token⟩ past later →
    token < coordinator.tokens.length → later.coordinator.finish token = later.coordinator
  /-- Nobody sleeps without a token. -/
  awake : ∀ waiter ∈ coordinator.waiters, waiter.phase = .parked → coordinator.outstanding ≠ 0

/-- The same account for threads that are in the middle of ends and looks. -/
structure Threads.Exact (threads : Threads) : Prop where
  /-- Only a token in the middle of its end is both outstanding and released. -/
  issued : threads.coordinator.tokens.length + threads.leaving =
    threads.coordinator.outstanding + threads.coordinator.released
  /-- Whoever takes away a token takes away one that is there. -/
  ends : 0 < threads.leaving → 0 < threads.coordinator.outstanding
  /-- Success comes only from a count of no tokens. -/
  returns : ∀ next (index : Nat) waiter later, Threads.Step threads next →
    threads.coordinator.waiters[index]? = some waiter →
    next.coordinator.waiters[index]? = some later →
    waiter.phase ≠ .returned true → later.phase = .returned true →
    threads.coordinator.outstanding = 0
  /-- When every thread has run, nobody sleeps without a token. -/
  awake : threads.Rests → ∀ waiter ∈ threads.coordinator.waiters, waiter.phase = .parked →
    threads.coordinator.outstanding ≠ 0
  /-- Without interruption the parts of an end are what the coordinator does at once. -/
  wholeEnd : ∀ token : Nat, threads.coordinator.tokens[token]? = some true →
    (threads.count token).leave.tell.coordinator = threads.coordinator.finish token
  /-- Without interruption the parts of a look are what the coordinator does at once. -/
  wholeLook : ∀ (now index : Nat) waiter, threads.coordinator.waiters[index]? = some waiter →
    waiter.phase = .scheduled →
    (threads.coordinator.outstanding = 0 →
      ((threads.register index).check index threads.calls).coordinator =
        (threads.coordinator.poll now index).1) ∧
    (threads.coordinator.outstanding ≠ 0 →
      (((threads.register index).check index threads.calls).sleep now index
        threads.calls).coordinator = (threads.coordinator.poll now index).1)

theorem Coordinator.Reachable.exact {coordinator : Coordinator}
    (reached : coordinator.Reachable) : coordinator.Exact := by
  have balanced := reached.balanced
  have outstanding := balanced.outstanding
  have released := balanced.released
  refine ⟨?_, outstanding, ?_, ?_, ?_⟩
  · rw [outstanding, released]
    exact (List.count_true_add_count_false _).symm
  · intro token held
    have positive : 0 < coordinator.tokens.count true :=
      List.count_pos_iff.mpr (List.mem_of_getElem? held)
    have one : coordinator.outstanding = coordinator.outstanding - 1 + 1 := by omega
    have ended : coordinator.finish token = _ := if_pos held
    rw [ended]
    exact ⟨one, rfl⟩
  · intro now token past later course inside
    have ended : (coordinator.finish token).tokens[token]? = some false := by
      by_cases held : coordinator.tokens[token]? = some true
      · exact tokenEnded held
      · rw [finishMissing held, List.getElem?_eq_getElem inside, Option.some.injEq]
        simpa [List.getElem?_eq_getElem inside] using held
    exact finishMissing (by simp [course.endedKept ended])
  · intro waiter member parked
    obtain ⟨index, found⟩ := List.mem_iff_getElem?.mp member
    exact reached.awake index waiter found parked

theorem Threads.Reachable.exact {threads : Threads} (reached : threads.Reachable) :
    threads.Exact := by
  have account := reached.account
  have outstanding := account.outstanding
  have released := account.released
  have all := List.count_true_add_count_false threads.coordinator.tokens
  refine ⟨by omega, by omega, ?_, ?_, fun token held => threads.wholeEnd held,
    fun now index waiter found scheduled => threads.wholeLook now found scheduled⟩
  · intro next index waiter later step before after unreturned returned
    exact step.returns before after unreturned returned
  · intro rests waiter member parked
    obtain ⟨index, found⟩ := List.mem_iff_getElem?.mp member
    rcases reached.watchful.asleep index waiter found parked with somebody | telling
    · exact somebody
    · exact absurd rests.ends.2 telling

/-- A wait with a limit is over once the limit is, since by then nobody sleeps or is about to
look. -/
theorem Waits.ended {span : Duration} {phase : Phase} (waits : Waits limit since index past moment)
    (limited : limit = some span)
    (found : moment.coordinator.waiters[index]? = some (waiterOf limit since phase))
    (past : ¬ InTime limit since moment.clock ∨
      Expires span since moment.clock ∧ moment.Rests) :
    ∃ clean, phase = .returned clean := by
  obtain ⟨same, there, outcome⟩ := waits
  obtain rfl : phase = same :=
    congrArg Waiter.phase (Option.some.inj (found.symm.trans there))
  cases phase with
  | returned clean => exact ⟨clean, rfl⟩
  | parked =>
      have early : Early limit since moment.clock := outcome.2.2.1
      rcases past with late | ⟨⟨_, passed, now, elapsed⟩, _⟩
      · exact absurd early.inTime late
      · have short := Duration.ltMilliseconds.mpr (early span passed limited now)
        have long := Duration.millisecondsLe.mpr elapsed
        omega
  | scheduled =>
      rcases past with late | ⟨_, rests⟩
      · exact absurd outcome.2.1 late
      · exact absurd rfl (rests _ (List.mem_of_getElem? found))

/-- A token is lost, and somebody begins to wait five seconds for its end. -/
def leaked : Moment := (Moment.act .issue {}).act (.startWait (some (.ofSeconds 5)))

/-- The waiter has slept until its deadline. -/
def expired : Moment := (leaked.act (.look 0)).jump 5000

end NodeBridge.Shutdown
