import NodeBridge.Proofs.Shutdown.Threads

/-
This file follows those who wait for the tokens of a coordinator.
Whoever sleeps sleeps for a token that is held, and a wait ends with the first look that finds no
token or, in vain, exactly at its deadline.
-/

namespace NodeBridge.Shutdown

namespace Coordinator

variable {coordinator : Coordinator} {now index : Nat} {waiter : Waiter} {action : Action}

/-- An action lets a waiter look, wakes it up or leaves it as it is. -/
inductive Stirs (coordinator : Coordinator) (now index : Nat) (waiter : Waiter)
    (action : Action) : Phase → Prop where
  | look (own : action = .look index) (scheduled : waiter.phase = .scheduled) :
      Stirs coordinator now index waiter action (coordinator.look now waiter).1
  | wake (parked : waiter.phase = .parked) : Stirs coordinator now index waiter action .scheduled
  | rest (idle : ¬ (action = .look index ∧ waiter.phase = .scheduled)) :
      Stirs coordinator now index waiter action waiter.phase

theorem wakeUpCases (waiter : Waiter) :
    (waiter.phase = .parked ∧ wakeUp waiter = { waiter with phase := .scheduled }) ∨
      (waiter.phase ≠ .parked ∧ wakeUp waiter = waiter) := by
  by_cases parked : waiter.phase = .parked
  · exact .inl ⟨parked, by simp [wakeUp, parked]⟩
  · exact .inr ⟨parked, by simp [wakeUp, parked]⟩

/-- Time wakes those who sleep and whose deadline has come. -/
theorem wakeAtCases (now : Nat) (waiter : Waiter) :
    (waiter.phase = .parked ∧ (∃ deadline, waiter.deadline = some deadline ∧ deadline ≤ now) ∧
      wakeAt now waiter = { waiter with phase := .scheduled }) ∨
    ((waiter.phase = .parked → ∀ deadline, waiter.deadline = some deadline → now < deadline) ∧
      wakeAt now waiter = waiter) := by
  by_cases due : ∃ deadline, waiter.deadline = some deadline ∧ deadline ≤ now
  · obtain ⟨deadline, ends, past⟩ := due
    have wakes : wakeAt now waiter = wakeUp waiter := by simp [wakeAt, ends, past]
    rcases wakeUpCases waiter with ⟨parked, woken⟩ | ⟨awake, same⟩
    · exact .inl ⟨parked, ⟨deadline, ends, past⟩, wakes.trans woken⟩
    · exact .inr ⟨fun parked => absurd parked awake, wakes.trans same⟩
  · have early (deadline : Nat) (ends : waiter.deadline = some deadline) : now < deadline :=
      Nat.lt_of_not_le fun past => due ⟨deadline, ends, past⟩
    refine .inr ⟨fun _ => early, ?_⟩
    unfold wakeAt
    split
    case h_1 deadline ends => exact if_neg (Nat.not_le.mpr (early deadline ends))
    case h_2 => rfl

/-- These are all the ways in which an action reaches a waiter. -/
theorem stirs (found : coordinator.waiters[index]? = some waiter) (now : Nat) (action : Action) :
    ∃ phase, (coordinator.perform now action).1.waiters[index]? = some { waiter with phase } ∧
      Stirs coordinator now index waiter action phase := by
  have idle {other : Action} (foreign : other ≠ .look index) :
      ¬ (other = .look index ∧ waiter.phase = .scheduled) := fun both => foreign both.1
  cases action with
  | issue | trigger | drop => exact ⟨waiter.phase, found, .rest (idle (by simp))⟩
  | startWait limit =>
      have inside := (List.getElem?_eq_some_iff.mp found).1
      exact ⟨waiter.phase, (List.getElem?_append_left inside).trans found, .rest (idle (by simp))⟩
  | finish token =>
      by_cases held : coordinator.tokens[token]? = some true
      · have woken := waiterFinish held index
        rw [found, Option.map_some] at woken
        rcases wakeUpCases waiter with ⟨parked, wakes⟩ | ⟨_, same⟩
        · exact ⟨.scheduled, wakes ▸ woken, .wake parked⟩
        · exact ⟨waiter.phase, same ▸ woken, .rest (idle (by simp))⟩
      · refine ⟨waiter.phase, ?_, .rest (idle (by simp))⟩
        rw [perform, finishMissing held]
        exact found
  | look other =>
      by_cases own : other = index ∧ waiter.phase = .scheduled
      · obtain ⟨rfl, scheduled⟩ := own
        have polled := waiterPoll coordinator now other other
        rw [found, Option.map_some, if_pos rfl] at polled
        exact ⟨_, polled, .look rfl scheduled⟩
      · refine ⟨waiter.phase, waiterPollKept found now other own, .rest ?_⟩
        rintro ⟨same, scheduled⟩
        exact own ⟨Action.look.inj same, scheduled⟩
  | wakeDue =>
      have woken : (coordinator.wakeDue now).waiters[index]? = some (wakeAt now waiter) := by
        simp [wakeDue, found]
      rcases wakeAtCases now waiter with ⟨parked, _, wakes⟩ | ⟨_, same⟩
      · exact ⟨.scheduled, wakes ▸ woken, .wake parked⟩
      · exact ⟨waiter.phase, same ▸ woken, .rest (idle (by simp))⟩

/-- Whoever sleeps sleeps for a token. -/
def Awake (coordinator : Coordinator) : Prop :=
  ∀ (index : Nat) waiter, coordinator.waiters[index]? = some waiter → waiter.phase = .parked →
    coordinator.outstanding ≠ 0

/-- Whoever returns with success leaves nobody with a token behind. -/
theorem returnsWithout {later : Waiter} (before : coordinator.waiters[index]? = some waiter)
    (after : (coordinator.perform now action).1.waiters[index]? = some later)
    (unreturned : waiter.phase ≠ .returned true) (returned : later.phase = .returned true) :
    (coordinator.perform now action).1.outstanding = 0 := by
  obtain ⟨phase, there, stirred⟩ := stirs before now action
  obtain rfl := Option.some.inj (there.symm.trans after)
  cases stirred with
  | look own scheduled =>
      subst own
      rw [perform, outstandingPoll]
      rcases coordinator.lookCases now scheduled with ⟨nobody, _⟩ |
        ⟨_, _, _, _, _, _, result⟩ | ⟨_, _, result⟩
      · exact nobody
      · simp [result] at returned
      · simp [result] at returned
  | wake => contradiction
  | rest => exact absurd returned unreturned

/-- After the end of a token nobody sleeps, and before it nobody falls asleep without a token. -/
theorem awakePerform (awake : coordinator.Awake) (now : Nat) (action : Action) :
    (coordinator.perform now action).1.Awake := by
  cases action with
  | issue => exact fun _ _ _ _ => Nat.succ_ne_zero _
  | trigger | drop => exact awake
  | startWait limit =>
      intro index waiter found parked
      simp only [perform, startWait, List.getElem?_append] at found
      split at found
      · exact awake index waiter found parked
      · obtain rfl := List.mem_singleton.mp (List.mem_of_getElem? found)
        contradiction
  | finish token =>
      by_cases held : coordinator.tokens[token]? = some true
      · intro index waiter found parked
        simp only [perform, waiterFinish held, Option.map_eq_some_iff] at found
        obtain ⟨before, _, rfl⟩ := found
        rcases wakeUpCases before with ⟨_, woken⟩ | ⟨unparked, same⟩
        · rw [woken] at parked
          contradiction
        · exact absurd (same ▸ parked) unparked
      · rw [perform, finishMissing held]
        exact awake
  | look other =>
      intro index waiter found parked
      rw [perform, outstandingPoll]
      simp only [perform, waiterPoll, Option.map_eq_some_iff] at found
      obtain ⟨before, there, rfl⟩ := found
      split at parked
      · intro nobody
        by_cases scheduled : before.phase = .scheduled
        · simp [look, scheduled, nobody] at parked
        · simp only [look, ne_eq, scheduled, not_false_eq_true, if_true] at parked
          exact awake index before there parked nobody
      · exact awake index before there parked
  | wakeDue =>
      intro index waiter found parked
      simp only [perform, wakeDue, List.getElem?_map, Option.map_eq_some_iff] at found
      obtain ⟨before, there, rfl⟩ := found
      rcases wakeAtCases now before with ⟨_, _, woken⟩ | ⟨_, same⟩
      · rw [woken] at parked
        contradiction
      · exact awake index before there (same ▸ parked)

theorem Reachable.awake (reached : coordinator.Reachable) : coordinator.Awake := by
  induction reached with
  | new => simp [Awake]
  | next _ now action _ inductionHypothesis => exact awakePerform inductionHypothesis now action

end Coordinator

end NodeBridge.Shutdown
