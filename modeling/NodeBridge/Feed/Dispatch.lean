import NodeBridge.Event
import NodeBridge.Feed.Channel

/-
This file connects a dispatcher, which forwards items, with the feed that receives them.
Tasks may forward in the background, and each of them keeps the dispatcher alive until it ends.
-/

namespace NodeBridge.Feed

/-- A task waits in line, has ended or was stopped. -/
inductive Task where
  | waiting (ticket : Nat)
  | ended (result : Except ForwardError Unit)
  | stopped

def Task.isFinished : Task → Bool
  | .waiting _ => false
  | _ => true

/-- The feed hands out an item, has nothing for now or is at its end. -/
inductive Receipt (A : Type) where
  | item (value : A)
  | pending
  | ended

/-- Both halves of a dispatch can be dropped. -/
structure Dispatch (A : Type) where
  channel : Channel A
  dispatcherHeld : Bool := true
  feedHeld : Bool := true
  tasks : List Task := []

/-- A wish for more than the maximum is reported. -/
def capacityEvents (requested : Nat) : List Event :=
  if maximumCapacity < requested then
    [{ level := .warn
       component := .dispatcher
       message := "Feed capacity clamped"
       fields := [("requested", .number requested), ("max", .number maximumCapacity)] }]
  else []

namespace Dispatch

variable {A : Type}

def ofCapacity (requested : Nat) : Dispatch A := { channel := Channel.ofCapacity requested }

/-- An attempt that would have to wait is given up without effect. -/
def forward (item : A) (dispatch : Dispatch A) :
    Option (Except ForwardError Unit) × Dispatch A :=
  let (progress, channel) := dispatch.channel.offer item
  match progress with
  | .accepted => (some (.ok ()), { dispatch with channel })
  | .closed => (some (.error .closed), { dispatch with channel })
  | .waits ticket => (none, { dispatch with channel := channel.cancel ticket })

/-- Items are forwarded in order until one does not get through. -/
def forwardAll (count : Nat) (last : Option (Option (Except ForwardError Unit))) :
    List A → Dispatch A → (Nat × Option (Option (Except ForwardError Unit))) × Dispatch A
  | [], dispatch => ((count, last), dispatch)
  | item :: rest, dispatch =>
      let (result, next) := dispatch.forward item
      match result with
      | some (.ok ()) => forwardAll (count + 1) (some result) rest next
      | _ => ((count, some result), next)

/-- A task in the background waits as long as it has to. -/
def spawn (item : A) (dispatch : Dispatch A) : Dispatch A :=
  let (progress, channel) := dispatch.channel.offer item
  let task : Task := match progress with
    | .accepted => .ended (.ok ())
    | .closed => .ended (.error .closed)
    | .waits ticket => .waiting ticket
  { dispatch with channel, tasks := dispatch.tasks ++ [task] }

/-- Stopping a task takes it out of the line, and a finished task stays as it is. -/
def stop (index : Nat) (dispatch : Dispatch A) : Dispatch A :=
  match dispatch.tasks[index]? with
  | some (.waiting ticket) =>
      { dispatch with
        channel := dispatch.channel.cancel ticket
        tasks := dispatch.tasks.set index .stopped }
  | _ => dispatch

/-- Every waiting task looks once, in the order of the line. -/
def settleTasks : List Task → Channel A → List Task × Channel A
  | [], channel => ([], channel)
  | .waiting ticket :: rest, channel =>
      let (progress, next) := channel.poll ticket
      let task : Task := match progress with
        | .accepted => .ended (.ok ())
        | .closed => .ended (.error .closed)
        | .waits _ => .waiting ticket
      let (tasks, final) := settleTasks rest next
      (task :: tasks, final)
  | task :: rest, channel =>
      let (tasks, final) := settleTasks rest channel
      (task :: tasks, final)

def settle (dispatch : Dispatch A) : Dispatch A :=
  let (tasks, channel) := settleTasks dispatch.tasks dispatch.channel
  { dispatch with channel, tasks }

/-- Someone may still forward as long as the dispatcher or a task is there. -/
def mayForward (dispatch : Dispatch A) : Bool :=
  dispatch.dispatcherHeld || dispatch.tasks.any fun task => !task.isFinished

def receive (dispatch : Dispatch A) : Receipt A × Dispatch A :=
  match dispatch.channel.take? with
  | some (item, channel) => (.item item, { dispatch with channel })
  | none => (if dispatch.mayForward then .pending else .ended, dispatch)

/-- All items of the buffer are taken while the tasks stand still. -/
def drain (dispatch : Dispatch A) : List A × Dispatch A :=
  let items := dispatch.channel.buffer.toList
  (items, { dispatch with channel := { dispatch.channel with buffer := .empty }.reserve })

def dropFeed (dispatch : Dispatch A) : Dispatch A :=
  { dispatch with channel := dispatch.channel.close, feedHeld := false }

def dropDispatcher (dispatch : Dispatch A) : Dispatch A :=
  { dispatch with dispatcherHeld := false }

end Dispatch

end NodeBridge.Feed
