import NodeBridge.Proofs.Shutdown.Action
import Mathlib.Data.List.Basic

/-
This file takes the end of a token and the look of a waiter apart, since threads may be at several
of them at the same time.
Whoever looks registers for calls before it counts tokens, and whoever ends a token gives it up
before it calls, so nobody is left asleep without a token.
-/

namespace NodeBridge.Shutdown

/-- A waiter in the middle of a look registered after so many calls, and then it may have seen
tokens. -/
inductive Look where
  | registered (calls : Nat)
  | seen (calls : Nat)

def Look.calls : Look → Nat
  | registered calls => calls
  | seen calls => calls

/-- The end of a token has three parts, and these numbers say how many ends wait for their second
part and how many for their last one, which is a call to all who sleep. -/
structure Threads where
  coordinator : Coordinator := {}
  calls : Nat := 0
  leaving : Nat := 0
  telling : Nat := 0
  looks : Nat → Option Look := fun _ => none

namespace Threads

variable {threads next : Threads} {index : Nat} {waiter : Waiter}

/-- The first part takes the token and counts it as released. -/
def count (token : Nat) (threads : Threads) : Threads :=
  { threads with
    coordinator := { threads.coordinator with
      released := threads.coordinator.released + 1
      tokens := threads.coordinator.tokens.set token false }
    leaving := threads.leaving + 1 }

/-- In the second part the token is no longer outstanding. -/
def leave (threads : Threads) : Threads :=
  { threads with
    coordinator := { threads.coordinator with
      outstanding := threads.coordinator.outstanding - 1 }
    leaving := threads.leaving - 1
    telling := threads.telling + 1 }

/-- The last part is the call. -/
def tell (threads : Threads) : Threads :=
  { threads with
    coordinator := { threads.coordinator with
      waiters := threads.coordinator.waiters.map Coordinator.wakeUp }
    calls := threads.calls + 1
    telling := threads.telling - 1 }

def setLook (index : Nat) (look : Option Look) (threads : Threads) : Threads :=
  { threads with looks := Function.update threads.looks index look }

def setPhase (index : Nat) (phase : Waiter → Phase) (threads : Threads) : Threads :=
  { threads with
    coordinator := { threads.coordinator with
      waiters := threads.coordinator.waiters.modify index fun waiter =>
        { waiter with phase := phase waiter } } }

/-- A look begins with a registration for all calls to come. -/
def register (index : Nat) (threads : Threads) : Threads :=
  threads.setLook index (some (.registered threads.calls))

/-- Without a token the waiter returns. -/
def check (index calls : Nat) (threads : Threads) : Threads :=
  if threads.coordinator.outstanding = 0 then
    (threads.setPhase index fun _ => .returned true).setLook index none
  else threads.setLook index (some (.seen calls))

/-- A waiter that saw tokens sleeps unless its deadline has passed. -/
def restingPhase (now : Nat) (waiter : Waiter) : Phase :=
  match waiter.limit, waiter.deadline with
  | some _, some deadline => if deadline ≤ now then .returned false else .parked
  | _, _ => .parked

/-- After a call in between the waiter looks again instead of going to sleep. -/
def sleep (now index calls : Nat) (threads : Threads) : Threads :=
  if calls = threads.calls then
    (threads.setPhase index (restingPhase now)).setLook index none
  else threads.setLook index none

/-- These are the parts in which threads move, and what others do in between. -/
inductive Step (threads : Threads) : Threads → Prop where
  | count {token : Nat} (held : threads.coordinator.tokens[token]? = some true) :
      Step threads (threads.count token)
  | leave (counted : 0 < threads.leaving) : Step threads threads.leave
  | tell (left : 0 < threads.telling) : Step threads threads.tell
  | register {index : Nat} {waiter : Waiter}
      (found : threads.coordinator.waiters[index]? = some waiter)
      (scheduled : waiter.phase = .scheduled) (idle : threads.looks index = none) :
      Step threads (threads.register index)
  | check {index calls : Nat} (look : threads.looks index = some (.registered calls)) :
      Step threads (threads.check index calls)
  | sleep (now : Nat) {index calls : Nat} (look : threads.looks index = some (.seen calls)) :
      Step threads (threads.sleep now index calls)
  | expire {index : Nat} {waiter : Waiter}
      (found : threads.coordinator.waiters[index]? = some waiter)
      (parked : waiter.phase = .parked) (limited : waiter.limit.isSome) :
      Step threads (threads.setPhase index fun _ => .returned false)
  | issue (allowed : threads.coordinator.Allows .issue) :
      Step threads { threads with coordinator := threads.coordinator.issue.2 }
  | startWait (limit : Option Duration) (now : Nat)
      (allowed : threads.coordinator.Allows (.startWait limit)) :
      Step threads { threads with coordinator := (threads.coordinator.startWait limit now).2 }
  | trigger (allowed : threads.coordinator.Allows .trigger) :
      Step threads { threads with coordinator := threads.coordinator.trigger.1 }
  | drop : Step threads { threads with coordinator := threads.coordinator.drop }

/-- Nobody is in the middle of anything, and no waiter is about to look. -/
structure Rests (threads : Threads) : Prop where
  ends : threads.leaving = 0 ∧ threads.telling = 0
  looks : ∀ index, threads.looks index = none
  waiters : ∀ waiter ∈ threads.coordinator.waiters, waiter.phase ≠ .scheduled

inductive Reachable : Threads → Prop where
  | new : Reachable {}
  | next {threads later : Threads} (reached : Reachable threads) (step : Step threads later) :
      Reachable later

/-- Done without interruption, the three parts are the end of the token. -/
theorem wholeEnd (threads : Threads) {token : Nat}
    (held : threads.coordinator.tokens[token]? = some true) :
    (threads.count token).leave.tell.coordinator = threads.coordinator.finish token := by
  simp [count, leave, tell, Coordinator.finish, held]

/-- Done without interruption, registration, count and sleep are the look of the waiter. -/
theorem wholeLook (threads : Threads) (now : Nat)
    (found : threads.coordinator.waiters[index]? = some waiter)
    (scheduled : waiter.phase = .scheduled) :
    (threads.coordinator.outstanding = 0 →
      ((threads.register index).check index threads.calls).coordinator =
        (threads.coordinator.poll now index).1) ∧
    (threads.coordinator.outstanding ≠ 0 →
      (((threads.register index).check index threads.calls).sleep now index
        threads.calls).coordinator = (threads.coordinator.poll now index).1) := by
  have modified (phase : Waiter → Phase) :
      (threads.coordinator.waiters.modify index fun waiter =>
        { waiter with phase := phase waiter }) =
      threads.coordinator.waiters.set index { waiter with phase := phase waiter } := by
    rw [List.modify_eq_set_getElem?, found]
    rfl
  constructor
  · intro nobody
    have looks : threads.coordinator.look now waiter = (.returned true, []) := by
      simp [Coordinator.look, scheduled, nobody]
    simp [register, check, setLook, setPhase, nobody, Coordinator.poll, found, looks, modified]
  · intro somebody
    have looks : (threads.coordinator.look now waiter).1 = restingPhase now waiter := by
      rcases threads.coordinator.lookCases now scheduled with ⟨nobody, _⟩ |
        ⟨_, limit, deadline, limited, ends, due, looks⟩ | ⟨_, early, looks⟩
      · contradiction
      · simp [looks, restingPhase, limited, ends, due]
      · rw [looks, restingPhase]
        split
        case h_1 limit deadline limited ends =>
          exact (if_neg (Nat.not_le.mpr (early limit deadline limited ends))).symm
        case h_2 => rfl
    simp [register, check, setLook, setPhase, sleep, somebody, Coordinator.poll, found, looks,
      modified]

/-- A token is outstanding, or a call is still to come. -/
def Kept (threads : Threads) : Prop :=
  threads.coordinator.outstanding ≠ 0 ∨ threads.telling ≠ 0

/-- Whoever has seen tokens without a call since, or sleeps, does not wait in vain. -/
structure Watchful (threads : Threads) : Prop where
  past : ∀ index look, threads.looks index = some look → look.calls ≤ threads.calls
  seen : ∀ index, threads.looks index = some (.seen threads.calls) → threads.Kept
  asleep : ∀ (index : Nat) waiter, threads.coordinator.waiters[index]? = some waiter →
    waiter.phase = .parked → threads.Kept

namespace Watchful

theorem setLook (watchful : threads.Watchful) {look : Option Look}
    (past : ∀ value, look = some value → value.calls ≤ threads.calls)
    (seen : look = some (.seen threads.calls) → threads.Kept) :
    (threads.setLook index look).Watchful where
  past other value found := by
    by_cases same : other = index
    · subst same
      exact past value (by simpa [Threads.setLook] using found)
    · exact watchful.past other value (by simpa [Threads.setLook, same] using found)
  seen other found := by
    by_cases same : other = index
    · subst same
      exact seen (by simpa [Threads.setLook] using found)
    · exact watchful.seen other (by simpa [Threads.setLook, same] using found)
  asleep := watchful.asleep

theorem setPhase (watchful : threads.Watchful) {phase : Waiter → Phase}
    (kept : ∀ waiter, phase waiter = .parked → threads.Kept) :
    (threads.setPhase index phase).Watchful where
  past := watchful.past
  seen := watchful.seen
  asleep other waiter found parked := by
    simp only [Threads.setPhase, List.getElem?_modify, Option.map_eq_map,
      Option.map_eq_some_iff] at found
    obtain ⟨before, there, rfl⟩ := found
    split at parked
    · exact kept before parked
    · exact watchful.asleep other before there parked

theorem tell (watchful : threads.Watchful) : threads.tell.Watchful where
  past index look found := Nat.le_succ_of_le (watchful.past index look found)
  seen index found := by
    have earlier : threads.calls + 1 ≤ threads.calls := watchful.past index _ found
    omega
  asleep index waiter found parked := by
    simp only [Threads.tell, List.getElem?_map, Option.map_eq_some_iff] at found
    obtain ⟨before, _, rfl⟩ := found
    unfold Coordinator.wakeUp at parked
    split at parked
    · contradiction
    · contradiction

theorem step (watchful : threads.Watchful) (step : Step threads next) : next.Watchful := by
  cases step with
  | count | trigger | drop => exact ⟨watchful.past, watchful.seen, watchful.asleep⟩
  | leave =>
      have kept : threads.leave.Kept := .inr (Nat.succ_ne_zero _)
      exact ⟨watchful.past, fun _ _ => kept, fun _ _ _ _ => kept⟩
  | tell => exact watchful.tell
  | register => exact watchful.setLook (by simp [Look.calls]) (by simp)
  | check look =>
      unfold Threads.check
      split
      · exact (watchful.setPhase (by simp)).setLook (by simp) (by simp)
      case isFalse somebody =>
        have calls := watchful.past _ _ look
        exact watchful.setLook (by simpa [Look.calls] using calls) fun _ => .inl somebody
  | sleep now look =>
      unfold Threads.sleep
      split
      case isTrue same =>
        have kept : threads.Kept := watchful.seen _ (same ▸ look)
        exact (watchful.setPhase fun _ _ => kept).setLook (by simp) (by simp)
      case isFalse => exact watchful.setLook (by simp) (by simp)
  | expire => exact watchful.setPhase (by simp)
  | issue =>
      refine ⟨watchful.past, fun _ _ => ?_, fun _ _ _ _ => ?_⟩
      all_goals exact .inl (Nat.succ_ne_zero _)
  | startWait =>
      refine ⟨watchful.past, watchful.seen, ?_⟩
      intro index waiter found parked
      simp only [Coordinator.startWait, List.getElem?_append] at found
      split at found
      · exact watchful.asleep index waiter found parked
      · obtain rfl := List.mem_singleton.mp (List.mem_of_getElem? found)
        contradiction

end Watchful

/-- A token is outstanding until the second part of its end, and released from the first one on. -/
structure Account (threads : Threads) : Prop where
  outstanding : threads.coordinator.outstanding =
    threads.coordinator.tokens.count true + threads.leaving
  released : threads.coordinator.released = threads.coordinator.tokens.count false

theorem Account.step (account : threads.Account) (step : Step threads next) : next.Account := by
  have outstanding := account.outstanding
  have released := account.released
  cases step with
  | count held =>
      obtain ⟨inside, value⟩ := List.getElem?_eq_some_iff.mp held
      have positive : 0 < threads.coordinator.tokens.count true :=
        List.count_pos_iff.mpr (List.mem_of_getElem? held)
      constructor
      · simp only [Threads.count, List.count_set inside, value]
        simp
        omega
      · simp [Threads.count, List.count_set inside, value, released]
  | leave counted =>
      refine ⟨?_, released⟩
      simp only [Threads.leave]
      omega
  | issue =>
      constructor
      · simp [Coordinator.issue]
        omega
      · simp [Coordinator.issue, released]
  | check | sleep =>
      simp only [check, sleep]
      split <;> exact ⟨outstanding, released⟩
  | tell | register | expire | startWait | trigger | drop => exact ⟨outstanding, released⟩

theorem Reachable.watchful (reached : Reachable threads) : threads.Watchful := by
  induction reached with
  | new => exact ⟨by simp, by simp, by simp⟩
  | next _ step inductionHypothesis => exact inductionHypothesis.step step

theorem Reachable.account (reached : Reachable threads) : threads.Account := by
  induction reached with
  | new => exact ⟨rfl, rfl⟩
  | next _ step inductionHypothesis => exact inductionHypothesis.step step

/-- Success comes only from a count of no tokens. -/
theorem Step.returns {later : Waiter} (step : Step threads next)
    (before : threads.coordinator.waiters[index]? = some waiter)
    (after : next.coordinator.waiters[index]? = some later)
    (unreturned : waiter.phase ≠ .returned true) (returned : later.phase = .returned true) :
    threads.coordinator.outstanding = 0 := by
  have modified {place : Nat} {phase : Waiter → Phase}
      (found : (threads.setPhase place phase).coordinator.waiters[index]? = some later) :
      phase waiter = .returned true := by
    simp only [setPhase, List.getElem?_modify, before, Option.map_eq_map, Option.map_some,
      Option.some.injEq] at found
    subst found
    split at returned
    · exact returned
    · exact absurd returned unreturned
  have same (found : threads.coordinator.waiters[index]? = some later) :
      threads.coordinator.outstanding = 0 := by
    obtain rfl := Option.some.inj (before.symm.trans found)
    exact absurd returned unreturned
  cases step with
  | count | leave | register | issue | trigger | drop => exact same after
  | startWait =>
      have inside := (List.getElem?_eq_some_iff.mp before).1
      exact same ((List.getElem?_append_left inside).symm.trans after)
  | tell =>
      simp only [Threads.tell, List.getElem?_map, before, Option.map_some, Option.some.injEq] at after
      subst after
      unfold Coordinator.wakeUp at returned
      split at returned
      · contradiction
      · exact absurd returned unreturned
  | check =>
      by_contra somebody
      simp only [Threads.check, somebody, if_false] at after
      exact somebody (same after)
  | sleep now =>
      unfold Threads.sleep at after
      split at after
      · have resting := modified after
        unfold restingPhase at resting
        split at resting
        · split at resting <;> contradiction
        · contradiction
      · exact same after
  | expire => exact absurd (modified after) (by simp)

end Threads

end NodeBridge.Shutdown
