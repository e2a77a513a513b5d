import NodeBridge.Proofs.Shutdown.Action
import NodeBridge.Shutdown.Session

/-
This file follows the signal to everybody who listens for it.
Every signal is a new version of a board, and a listener goes to sleep only after a look at the
newest version, so nobody who listens early, late or more than once misses it.
-/

namespace NodeBridge.Shutdown

/-- The board shows whether the signal was given and counts how often, and it closes when nobody is
left who could give it. -/
structure Board where
  given : Bool := false
  version : Nat := 0
  closed : Bool := false
  deriving DecidableEq

/-- Every signal is a new version, and the board closes when the coordinator is gone. -/
def Board.after (action : Action) (gone : Bool) (board : Board) : Board :=
  if action = .trigger then { given := true, version := board.version + 1, closed := gone }
  else { board with closed := gone }

/-- Whoever listens has not looked yet, sleeps, or was called in its sleep. -/
inductive Listening where
  | begun
  | asleep
  | called
  deriving DecidableEq

/-- A listener remembers the newest version that it has seen, also while it does not listen. -/
structure Listener where
  seen : Nat
  listening : Option Listening := none
  deriving DecidableEq

namespace Listener

/-- A call reaches those who sleep. -/
def call (listener : Listener) : Listener :=
  if listener.listening = some .asleep then { listener with listening := some .called }
  else listener

/-- A look shows the newest version, and without a signal on an open board the listener sleeps. -/
def look (board : Board) : Listener where
  seen := board.version
  listening := if board.given || board.closed then none else some .asleep

/-- Whoever was called looks again only if there is a version that it has not seen. -/
def poll (board : Board) (listener : Listener) : Listener :=
  match listener.listening with
  | none => listener
  | some .begun => look board
  | some .asleep => listener
  | some .called =>
      if listener.seen = board.version then
        { listener with listening := if board.closed then none else some .asleep }
      else look board

end Listener

/-- A coordinator shares its board with its listeners, who stand in the order of their arrival. -/
structure Audience where
  coordinator : Coordinator := {}
  board : Board := {}
  listeners : List Listener := []

/-- Around a coordinator listeners arrive, begin to listen, get their turn or give up. -/
inductive Deed where
  | act (now : Nat) (action : Action)
  | subscribe
  | clone (index : Nat)
  | listen (index : Nat)
  | poll (index : Nat)
  | giveUp (index : Nat)
  deriving DecidableEq

namespace Deed

def isTrigger : Deed → Bool
  | act _ .trigger => true
  | _ => false

def isDrop : Deed → Bool
  | act _ .drop => true
  | _ => false

end Deed

namespace Audience

/-- Every change of the board is a call to all listeners. -/
def act (now : Nat) (action : Action) (audience : Audience) : Audience :=
  let coordinator := (audience.coordinator.perform now action).1
  let board := audience.board.after action coordinator.isGone
  { coordinator, board
    listeners :=
      if board = audience.board then audience.listeners
      else audience.listeners.map Listener.call }

def change (index : Nat) (how : Listener → Listener) (audience : Audience) : Audience :=
  { audience with listeners := audience.listeners.modify index how }

/-- A new listener has seen the newest version, and a clone has seen what its model has seen. -/
def perform (audience : Audience) : Deed → Audience
  | .act now action => audience.act now action
  | .subscribe =>
      { audience with listeners := audience.listeners ++ [{ seen := audience.board.version }] }
  | .clone index =>
      { audience with
        listeners := audience.listeners ++
          audience.listeners[index]?.toList.map fun listener => { seen := listener.seen } }
  | .listen index => audience.change index fun listener => { listener with listening := some .begun }
  | .poll index => audience.change index (Listener.poll audience.board)
  | .giveUp index => audience.change index fun listener => { listener with listening := none }

/-- This is what the coordinator reports about a deed. -/
def reports (audience : Audience) : Deed → List Event
  | .act now action => (audience.coordinator.perform now action).2
  | _ => []

/-- A listener listens to one thing at a time, and it takes a coordinator to subscribe. -/
def Allows (audience : Audience) : Deed → Prop
  | .act _ action => audience.coordinator.Allows action
  | .subscribe => audience.coordinator.isGone = false
  | .listen index => audience.listeners[index]?.map Listener.listening = some none
  | _ => True

/-- This listener listens and was not told of the end. -/
def Listens (audience : Audience) (index : Nat) : Prop :=
  ∃ listener, audience.listeners[index]? = some listener ∧ listener.listening ≠ none

/-- With its next turn this listener is done. -/
def Hears (audience : Audience) (index : Nat) : Prop :=
  (audience.perform (.poll index)).listeners[index]?.map Listener.listening = some none

end Audience

/-- A story keeps every deed with the audience that it met. -/
inductive Story (first : Audience) : List (Audience × Deed) → Audience → Prop where
  | start : Story first [] first
  | next {past : List (Audience × Deed)} {audience : Audience} {deed : Deed}
      (story : Story first past audience) (allowed : audience.Allows deed) :
      Story first (past ++ [(audience, deed)]) (audience.perform deed)

/-- Somebody has given the signal. -/
def IsGiven (past : List (Audience × Deed)) : Prop := ∃ entry ∈ past, entry.2.isTrigger = true

/-- The owner has let go of the coordinator. -/
def IsDropped (past : List (Audience × Deed)) : Prop := ∃ entry ∈ past, entry.2.isDrop = true

/-- These reports are about the signal. -/
def announcements (past : List (Audience × Deed)) : List Event :=
  (past.flatMap fun entry => entry.1.reports entry.2).filter
    fun event => event.message = "Shutdown triggered"

namespace Coordinator

variable (coordinator : Coordinator) (now : Nat) (action : Action)

theorem triggeredPerform : (coordinator.perform now action).1.triggered =
    (coordinator.triggered || decide (action = .trigger)) := by
  cases action with
  | finish token =>
      simp only [perform, finish]
      split <;> simp
  | look index =>
      simp only [perform, poll]
      split <;> simp
  | trigger => simp [perform, trigger]
  | issue | startWait | wakeDue | drop =>
      simp [perform, issue, startWait, wakeDue, drop]

theorem heldPerform : (coordinator.perform now action).1.held =
    (coordinator.held && decide (action ≠ .drop)) := by
  cases action with
  | finish token =>
      simp only [perform, finish]
      split <;> simp
  | look index =>
      simp only [perform, poll]
      split <;> simp
  | drop => simp [perform, drop]
  | issue | startWait | wakeDue | trigger =>
      simp [perform, issue, startWait, wakeDue, trigger]

/-- Whoever looks reports only a deadline. -/
theorem silentLook (index : Nat) : (coordinator.poll now index).2.filter
    (fun event => event.message = "Shutdown triggered") = [] := by
  unfold poll
  split
  case h_1 => rfl
  case h_2 waiter found =>
    by_cases scheduled : waiter.phase = .scheduled
    · rcases coordinator.lookCases now scheduled with ⟨_, looks⟩ | ⟨_, _, _, _, _, _, looks⟩ |
        ⟨_, _, looks⟩
      · simp [looks]
      · simp [looks, deadlineEvent]
      · simp [looks]
    · simp [look, scheduled]

theorem announces : (coordinator.perform now action).2.filter
    (fun event => event.message = "Shutdown triggered") =
      if action = .trigger ∧ coordinator.triggered = false then
        [triggerEvent coordinator.outstanding]
      else [] := by
  cases action with
  | look index => simpa [perform] using coordinator.silentLook now index
  | trigger =>
      cases given : coordinator.triggered with
      | true => simp [perform, trigger, given]
      | false => simp [perform, trigger, given, triggerEvent]
  | issue | finish | startWait | wakeDue | drop => simp [perform]

end Coordinator

end NodeBridge.Shutdown
