import NodeBridge.Shutdown.Coordinator

/-
This file runs tasks around a coordinator on a clock that moves only while all tasks sleep.
Tasks hold tokens, wait for the workers or wait for the signal.
-/

namespace NodeBridge.Shutdown

/-- A task holds a token for a while or until the signal, waits for all tokens, or for the signal. -/
inductive Task where
  | hold (token due : Nat)
  | holdUntilSignal (token : Nat)
  | wait (waiter : Nat)
  | awaitSignal
  | ended
  | arrived
  deriving DecidableEq

/-- What a task has come to is known after it ended. -/
inductive Joined where
  | pending
  | done
  | clean (value : Bool)
  | fired
  | unknown
  deriving DecidableEq

/-- Tokens, signals and tasks go by names, and the tasks stand in the order of their start. -/
structure Session where
  clock : Nat := 0
  coordinator : Coordinator := {}
  tokens : List (String × Nat) := []
  signals : List String := []
  tasks : List Task := []
  names : List (String × Nat) := []
  events : List Event := []

namespace Session

def report (events : List Event) (session : Session) : Session :=
  { session with events := session.events ++ events }

/-- A task that gets its turn goes on as far as it can. -/
def pollTask (session : Session) : Task → Task × Session
  | .hold token due =>
      if due ≤ session.clock then
        (.ended, { session with coordinator := session.coordinator.finish token })
      else (.hold token due, session)
  | .holdUntilSignal token =>
      if session.coordinator.signalArrives then
        (.ended, { session with coordinator := session.coordinator.finish token })
      else (.holdUntilSignal token, session)
  | .wait waiter =>
      let (coordinator, events) := session.coordinator.poll session.clock waiter
      (.wait waiter, { session with coordinator }.report events)
  | .awaitSignal => (if session.coordinator.signalArrives then .arrived else .awaitSignal, session)
  | task => (task, session)

/-- Every task gets one turn in the order of their start. -/
def pass : List Task → Session → List Task × Session
  | [], session => ([], session)
  | task :: rest, session =>
      let (next, afterTask) := session.pollTask task
      let (others, last) := pass rest afterTask
      (next :: others, last)

def passes : Nat → Session → Session
  | 0, session => session
  | count + 1, session =>
      let (tasks, next) := pass session.tasks session
      passes count { next with tasks }

/-- In every pass but the last at least one task ends, so this many are enough. -/
def settle (session : Session) : Session := passes (session.tasks.length + 1) session

/-- These tasks and waiters sleep until a known time. -/
def timers (session : Session) : List Nat :=
  session.tasks.filterMap fun task =>
    match task with
    | .hold _ due => some due
    | .wait waiter =>
        match session.coordinator.waiters[waiter]? with
        | some waiter => if waiter.isDone then none else waiter.deadline
        | none => none
    | _ => none

/-- The clock jumps to a time, and the sleepers of that time wake up. -/
def jump (time : Nat) (session : Session) : Session :=
  { session with clock := time, coordinator := session.coordinator.wakeDue time }

/-- This is the earliest timer up to a time. -/
def nextTimer (last : Nat) (session : Session) : Option Nat :=
  (session.timers.filter (· ≤ last)).min?

/-- Every jump but the last wakes a task that ends, so the steps are enough. -/
def advanceTo : Nat → Nat → Session → Session
  | 0, time, session => (session.jump time).settle
  | steps + 1, time, session =>
      match session.nextTimer time with
      | none => (session.jump time).settle
      | some due => advanceTo steps time (session.jump due).settle

def advance (milliseconds : Nat) (session : Session) : Session :=
  advanceTo session.tasks.length (session.clock + milliseconds) session

/-- The caller looks first whenever the clock has moved. -/
def waitUntil : Nat → Nat → Duration → Session → Bool × Session
  | 0, _, _, session => (session.coordinator.outstanding = 0, session)
  | steps + 1, deadline, limit, session =>
      if session.coordinator.outstanding = 0 then (true, session)
      else if deadline ≤ session.clock then
        (false, session.report [Coordinator.deadlineEvent session.coordinator.outstanding limit])
      else
        let settled := session.settle
        if settled.coordinator.outstanding = 0 then (true, settled)
        else
          waitUntil steps deadline limit
            (settled.jump ((settled.nextTimer deadline).getD deadline))

def waitWithTimeout (limit : Duration) (session : Session) : Bool × Session :=
  let (clean, next) := waitUntil (session.tasks.length + 2)
    (session.clock + limit.milliseconds) limit session
  (clean, next.settle)

/-- A token that is replaced by another of its name ends. -/
def issue (name : String) (session : Session) : Session :=
  let (token, coordinator) := session.coordinator.issue
  let coordinator := match session.tokens.lookup name with
    | some old => coordinator.finish old
    | none => coordinator
  { session with
    coordinator
    tokens := (name, token) :: session.tokens.filter fun entry => entry.1 ≠ name }

/-- A token is taken out of the hands that hold it. -/
def takeToken? (name : String) (session : Session) : Option (Nat × Session) :=
  (session.tokens.lookup name).map fun token =>
    (token, { session with tokens := session.tokens.filter fun entry => entry.1 ≠ name })

def finish (token : Nat) (session : Session) : Session :=
  { session with coordinator := session.coordinator.finish token }

def spawn (task : Task) (session : Session) : Session :=
  { session with tasks := session.tasks ++ [task] }

/-- The result of a named task can be asked for. -/
def spawnNamed (name : String) (task : Task) (session : Session) : Session :=
  { session.spawn task with
    names := (name, session.tasks.length) :: session.names.filter fun entry => entry.1 ≠ name }

def spawnWait (name : String) (limit : Option Duration) (session : Session) : Session :=
  let (waiter, coordinator) := session.coordinator.startWait limit session.clock
  { session with coordinator }.spawnNamed name (.wait waiter)

def addSignal (name : String) (session : Session) : Session :=
  { session with signals := name :: session.signals.filter (· ≠ name) }

def dropSignal (name : String) (session : Session) : Session :=
  { session with signals := session.signals.filter (· ≠ name) }

def outcome (session : Session) : Task → Joined
  | .wait waiter =>
      match session.coordinator.waiters[waiter]? with
      | some { phase := .returned clean, limit := some _, .. } => .clean clean
      | some { phase := .returned _, limit := none, .. } => .done
      | _ => .pending
  | .arrived => .fired
  | .ended => .done
  | _ => .pending

/-- The result of a finished task is handed out once. -/
def joined (name : String) (session : Session) : Joined × Session :=
  match session.names.lookup name with
  | none => (.unknown, session)
  | some index =>
      match (session.tasks[index]?).map session.outcome with
      | none => (.unknown, session)
      | some .pending => (.pending, session)
      | some result =>
          (result, { session with names := session.names.filter fun entry => entry.1 ≠ name })

def trigger (session : Session) : Session :=
  let (coordinator, events) := session.coordinator.trigger
  { session with coordinator }.report events

def dropCoordinator (session : Session) : Session :=
  { session with coordinator := session.coordinator.drop }

end Session

end NodeBridge.Shutdown
