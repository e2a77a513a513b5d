import NodeBridge.Shutdown.Coordinator

/-
This file lists what can be done with a coordinator and shows what every use of it keeps.
A signal that arrives never goes away, and the tokens account for what is outstanding.
-/

namespace NodeBridge.Shutdown

/-- The owner, the waiters and the holders of tokens act in these ways. -/
inductive Action where
  | issue
  | finish (token : Nat)
  | trigger
  | startWait (limit : Option Duration)
  | look (index : Nat)
  | wakeDue
  | drop
  deriving DecidableEq

namespace Coordinator

/-- An action takes place at a time, and some actions are reported. -/
def perform (now : Nat) (coordinator : Coordinator) : Action → Coordinator × List Event
  | .issue => (coordinator.issue.2, [])
  | .finish token => (coordinator.finish token, [])
  | .trigger => coordinator.trigger
  | .startWait limit => ((coordinator.startWait limit now).2, [])
  | .look index => coordinator.poll now index
  | .wakeDue => (coordinator.wakeDue now, [])
  | .drop => (coordinator.drop, [])

/-- What begins with the coordinator itself needs somebody who can still reach it. -/
def Allows (coordinator : Coordinator) : Action → Prop
  | .issue => coordinator.isGone = false
  | .trigger => coordinator.isGone = false
  | .startWait _ => coordinator.isGone = false
  | _ => True

/-- These are the coordinators that come about by use. -/
inductive Reachable : Coordinator → Prop where
  | new : Reachable {}
  | next {coordinator : Coordinator} (reached : Reachable coordinator) (now : Nat)
      (action : Action) (allowed : coordinator.Allows action) :
      Reachable (coordinator.perform now action).1

@[simp] theorem isDoneWakeUp (waiter : Waiter) : (wakeUp waiter).isDone = waiter.isDone := by
  by_cases parked : waiter.phase = .parked <;> simp [wakeUp, Waiter.isDone, parked]

/-- A waiter that has returned stays as it is when it looks again. -/
theorem lookOfDone {waiter : Waiter} (coordinator : Coordinator) (now : Nat)
    (isDone : waiter.isDone = true) : (coordinator.look now waiter).1 = waiter.phase := by
  have unscheduled : waiter.phase ≠ .scheduled := by
    intro scheduled
    simp [Waiter.isDone, scheduled] at isDone
  simp [look, unscheduled]

/-- Whoever may look returns without a token, gives up at its deadline and sleeps otherwise. -/
theorem lookCases {waiter : Waiter} (coordinator : Coordinator) (now : Nat)
    (scheduled : waiter.phase = .scheduled) :
    (coordinator.outstanding = 0 ∧ coordinator.look now waiter = (.returned true, [])) ∨
    (coordinator.outstanding ≠ 0 ∧ ∃ limit deadline, waiter.limit = some limit ∧
      waiter.deadline = some deadline ∧ deadline ≤ now ∧ coordinator.look now waiter =
        (.returned false, [deadlineEvent coordinator.outstanding limit])) ∨
    (coordinator.outstanding ≠ 0 ∧ (∀ limit deadline, waiter.limit = some limit →
      waiter.deadline = some deadline → now < deadline) ∧
        coordinator.look now waiter = (.parked, [])) := by
  by_cases nobody : coordinator.outstanding = 0
  · exact .inl ⟨nobody, by simp [look, scheduled, nobody]⟩
  · right
    cases limited : waiter.limit with
    | none => exact .inr ⟨nobody, by simp, by simp [look, scheduled, nobody, limited]⟩
    | some limit =>
        cases ends : waiter.deadline with
        | none => exact .inr ⟨nobody, by simp, by simp [look, scheduled, nobody, limited, ends]⟩
        | some deadline =>
            by_cases due : deadline ≤ now
            · exact .inl ⟨nobody, limit, deadline, rfl, rfl, due, by
                simp [look, scheduled, nobody, limited, ends, due]⟩
            · exact .inr ⟨nobody, by simpa using due, by
                simp [look, scheduled, nobody, limited, ends, due]⟩

theorem isGoneFinish (coordinator : Coordinator) (token : Nat) :
    (coordinator.finish token).isGone = coordinator.isGone := by
  unfold finish
  split
  · simp [isGone, List.all_map, Function.comp_def]
  · rfl

@[simp] theorem isDoneWakeAt (now : Nat) (waiter : Waiter) :
    (wakeAt now waiter).isDone = waiter.isDone := by
  unfold wakeAt
  split
  · split <;> simp
  · rfl

theorem isGoneWakeDue (coordinator : Coordinator) (now : Nat) :
    (coordinator.wakeDue now).isGone = coordinator.isGone := by
  simp [isGone, wakeDue, List.all_map, Function.comp_def]

/-- Nobody who looks brings back a coordinator that is gone. -/
theorem isGonePoll {coordinator : Coordinator} (now index : Nat)
    (gone : coordinator.isGone = true) : (coordinator.poll now index).1.isGone = true := by
  simp only [isGone, Bool.and_eq_true, Bool.not_eq_true'] at gone
  obtain ⟨dropped, allDone⟩ := gone
  unfold poll
  split
  · simp [isGone, dropped, allDone]
  case h_2 waiter found =>
    obtain ⟨inside, value⟩ := List.getElem?_eq_some_iff.mp found
    have isDone : waiter.isDone = true :=
      List.all_eq_true.mp allDone waiter (List.mem_of_getElem? found)
    have unchanged : ({ waiter with phase := (coordinator.look now waiter).1 } : Waiter) =
        coordinator.waiters[index] := by
      rw [lookOfDone coordinator now isDone, value]
    simp only [isGone, dropped, unchanged, List.set_getElem_self, Bool.not_false, Bool.true_and]
    exact allDone

/-- A signal that was given is never taken back. -/
theorem triggeredKept {coordinator : Coordinator} (now : Nat) (action : Action)
    (triggered : coordinator.triggered = true) :
    (coordinator.perform now action).1.triggered = true := by
  cases action with
  | finish token =>
      simp only [perform, finish]
      split <;> exact triggered
  | look index =>
      simp only [perform, poll]
      split <;> exact triggered
  | trigger => rfl
  | issue | startWait | wakeDue | drop => exact triggered

/-- A coordinator that is gone never comes back. -/
theorem goneKept {coordinator : Coordinator} (now : Nat) {action : Action}
    (allowed : coordinator.Allows action) (gone : coordinator.isGone = true) :
    (coordinator.perform now action).1.isGone = true := by
  cases action with
  | issue | trigger | startWait =>
      have present : coordinator.isGone = false := allowed
      rw [present] at gone
      contradiction
  | finish token => simpa only [perform, isGoneFinish] using gone
  | look index => exact isGonePoll now index gone
  | wakeDue => simpa only [perform, isGoneWakeDue] using gone
  | drop =>
      have allDone := (Bool.and_eq_true _ _ ▸ gone).2
      simpa [perform, drop, isGone] using allDone

/-- A signal that arrives goes on arriving, also when nobody is left who could give it. -/
theorem signalKept {coordinator : Coordinator} (now : Nat) {action : Action}
    (allowed : coordinator.Allows action) (arrives : coordinator.signalArrives = true) :
    (coordinator.perform now action).1.signalArrives = true := by
  simp only [signalArrives, Bool.or_eq_true] at arrives ⊢
  rcases arrives with triggered | gone
  · exact .inl (triggeredKept now action triggered)
  · exact .inr (goneKept now allowed gone)

/-- Every token that was issued is outstanding or released, and never both. -/
structure Balanced (coordinator : Coordinator) : Prop where
  outstanding : coordinator.outstanding = coordinator.tokens.count true
  released : coordinator.released = coordinator.tokens.count false

theorem balancedFinish {coordinator : Coordinator} (balanced : coordinator.Balanced)
    (token : Nat) : (coordinator.finish token).Balanced := by
  unfold finish
  split
  case isTrue held =>
    obtain ⟨inside, value⟩ := List.getElem?_eq_some_iff.mp held
    have positive : 0 < coordinator.tokens.count true :=
      List.count_pos_iff.mpr (List.mem_of_getElem? held)
    have outstanding := balanced.outstanding
    have released := balanced.released
    constructor
    · simp [List.count_set inside, value, outstanding]
    · simp [List.count_set inside, value, released]
  case isFalse => exact balanced

theorem balancedPerform {coordinator : Coordinator} (balanced : coordinator.Balanced)
    (now : Nat) (action : Action) : (coordinator.perform now action).1.Balanced := by
  cases action with
  | issue =>
      constructor
      · simp [perform, issue, balanced.outstanding]
      · simp [perform, issue, balanced.released]
  | finish token => exact balancedFinish balanced token
  | trigger => exact ⟨balanced.outstanding, balanced.released⟩
  | startWait limit => exact ⟨balanced.outstanding, balanced.released⟩
  | look index =>
      simp only [perform, poll]
      split <;> exact ⟨balanced.outstanding, balanced.released⟩
  | wakeDue => exact ⟨balanced.outstanding, balanced.released⟩
  | drop => exact ⟨balanced.outstanding, balanced.released⟩

/-- Something is outstanding only while somebody holds a token. -/
theorem Balanced.holds {coordinator : Coordinator} (balanced : coordinator.Balanced)
    (outstanding : coordinator.outstanding ≠ 0) :
    ∃ token : Nat, coordinator.tokens[token]? = some true := by
  rw [balanced.outstanding] at outstanding
  have member : true ∈ coordinator.tokens := List.count_pos_iff.mp (by omega)
  exact List.mem_iff_getElem?.mp member

/-- As many tokens are outstanding as different ones are known to be held. -/
theorem Balanced.atLeast {coordinator : Coordinator} (balanced : coordinator.Balanced)
    {held : List Nat} (distinct : held.Nodup)
    (all : ∀ token ∈ held, coordinator.tokens[token]? = some true) :
    held.length ≤ coordinator.outstanding := by
  rw [balanced.outstanding]
  generalize coordinator.tokens = tokens at all
  induction held generalizing tokens with
  | nil => exact Nat.zero_le _
  | cons token rest inductionHypothesis =>
      obtain ⟨fresh, distinctRest⟩ := List.nodup_cons.mp distinct
      have first := all token List.mem_cons_self
      obtain ⟨inside, value⟩ := List.getElem?_eq_some_iff.mp first
      have positive : 0 < tokens.count true :=
        List.count_pos_iff.mpr (List.mem_of_getElem? first)
      have fewer := inductionHypothesis distinctRest (tokens.set token false) ?_
      · simp only [List.count_set inside, value] at fewer
        simp at fewer
        rw [List.length_cons]
        omega
      · intro other member
        have different : token ≠ other := fun same => fresh (same ▸ member)
        rw [List.getElem?_set_ne different]
        exact all other (List.mem_cons_of_mem _ member)

/-- A token that ended is no longer held, and nobody gets one by it. -/
theorem heldAfterFinish {coordinator : Coordinator} {token other : Nat}
    (held : (coordinator.finish token).tokens[other]? = some true) :
    coordinator.tokens[other]? = some true ∧ other ≠ token := by
  unfold finish at held
  split at held
  case isTrue found =>
    by_cases same : other = token
    · obtain ⟨inside, _⟩ := List.getElem?_eq_some_iff.mp found
      simp [same, inside] at held
    · exact ⟨by simpa [List.getElem?_set_ne (Ne.symm same)] using held, same⟩
  case isFalse missing =>
    refine ⟨held, ?_⟩
    rintro rfl
    exact missing held

theorem tokenEnded {coordinator : Coordinator} {token : Nat}
    (held : coordinator.tokens[token]? = some true) :
    (coordinator.finish token).tokens[token]? = some false := by
  simp only [finish, held, if_true]
  exact List.getElem?_set_self (List.getElem?_eq_some_iff.mp held).1

/-- The end of a token that is held wakes every waiter that sleeps. -/
theorem waiterFinish {coordinator : Coordinator} {token : Nat}
    (held : coordinator.tokens[token]? = some true) (index : Nat) :
    (coordinator.finish token).waiters[index]? = coordinator.waiters[index]?.map wakeUp := by
  simp [finish, held]

/-- Without the token nothing ends. -/
theorem finishMissing {coordinator : Coordinator} {token : Nat}
    (missing : coordinator.tokens[token]? ≠ some true) :
    coordinator.finish token = coordinator := by
  simp [finish, missing]

theorem tokensPoll (coordinator : Coordinator) (now index : Nat) :
    (coordinator.poll now index).1.tokens = coordinator.tokens := by
  unfold poll
  split <;> rfl

/-- A look touches nothing but the waiters. -/
theorem pollWaiters (coordinator : Coordinator) (now index : Nat) :
    (coordinator.poll now index).1 =
      { coordinator with waiters := (coordinator.poll now index).1.waiters } := by
  unfold poll
  split <;> rfl

theorem outstandingPoll (coordinator : Coordinator) (now index : Nat) :
    (coordinator.poll now index).1.outstanding = coordinator.outstanding := by
  unfold poll
  split <;> rfl

/-- Nothing but its own end does anything to a token that was issued. -/
theorem tokenKept {coordinator : Coordinator} {token : Nat} {held : Bool} (now : Nat)
    {action : Action} (found : coordinator.tokens[token]? = some held)
    (foreign : action ≠ .finish token) :
    (coordinator.perform now action).1.tokens[token]? = some held := by
  cases action with
  | issue =>
      have inside := (List.getElem?_eq_some_iff.mp found).1
      exact (List.getElem?_append_left inside).trans found
  | finish other =>
      have different : other ≠ token := fun same => foreign (congrArg Action.finish same)
      simp only [perform, finish]
      split
      · exact (List.getElem?_set_ne different).trans found
      · exact found
  | look index =>
      simp only [perform, tokensPoll]
      exact found
  | trigger | startWait | wakeDue | drop => exact found

/-- A token that ended never comes back. -/
theorem endedKept {coordinator : Coordinator} {token : Nat} (now : Nat) (action : Action)
    (ended : coordinator.tokens[token]? = some false) :
    (coordinator.perform now action).1.tokens[token]? = some false := by
  by_cases own : action = .finish token
  · subst own
    rw [perform, finishMissing (by simp [ended])]
    exact ended
  · exact tokenKept now ended own

/-- Whoever looks changes only his own phase. -/
theorem waiterPoll (coordinator : Coordinator) (now index other : Nat) :
    (coordinator.poll now index).1.waiters[other]? =
      coordinator.waiters[other]?.map fun waiter =>
        if index = other then { waiter with phase := (coordinator.look now waiter).1 }
        else waiter := by
  unfold poll
  split
  case h_1 missing =>
    by_cases same : index = other
    · simp [← same, missing]
    · simp [same]
  case h_2 waiter found =>
    obtain ⟨inside, value⟩ := List.getElem?_eq_some_iff.mp found
    by_cases same : index = other
    · subst same
      simp [inside, value]
    · simp [same, List.getElem?_set_ne same]

/-- A waiter stays as it is while it sleeps or others look. -/
theorem waiterPollKept {coordinator : Coordinator} {index : Nat} {waiter : Waiter}
    (found : coordinator.waiters[index]? = some waiter) (now other : Nat)
    (idle : ¬ (other = index ∧ waiter.phase = .scheduled)) :
    (coordinator.poll now other).1.waiters[index]? = some waiter := by
  rw [waiterPoll, found, Option.map_some]
  split
  case isTrue same =>
    have unscheduled : waiter.phase ≠ .scheduled := fun scheduled => idle ⟨same, scheduled⟩
    simp [look, unscheduled]
  case isFalse => rfl

theorem Reachable.balanced {coordinator : Coordinator} (reached : coordinator.Reachable) :
    coordinator.Balanced := by
  induction reached with
  | new => exact ⟨rfl, rfl⟩
  | next _ now action _ inductionHypothesis => exact balancedPerform inductionHypothesis now action

end Coordinator

end NodeBridge.Shutdown
