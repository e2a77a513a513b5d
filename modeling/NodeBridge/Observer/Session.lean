import NodeBridge.Observer.Worker

/-
This file runs a worker on a clock that moves only while the worker waits.
The clock jumps from one timer to the next, and work itself takes no time.
-/

namespace NodeBridge.Observer.World

variable {State Item : Type} (source : Source State Item)

def attend (world : World State Item) : World State Item :=
  { world with source := source.attend world.clock world.source }

/-- When the worker has to wait, the source gets a turn and may let the worker go on. -/
def advanceOnce (world : World State Item) : Option (World State Item) :=
  (world.step source).or ((world.attend source).step source)

/-- The worker takes steps until it has to wait for more than the turn of the source. -/
def settleFor : Nat → World State Item → World State Item
  | 0, world => world.attend source
  | count + 1, world =>
      match world.advanceOnce source with
      | none => world.attend source
      | some next => settleFor count next

def settle (world : World State Item) : World State Item :=
  settleFor source (source.burst world.source + 10) world

/-- The next timer belongs to the pause of the worker or to the source. -/
def timer? (world : World State Item) : Option Nat :=
  match world.worker.map Worker.phase with
  | some (.pausing due) => some (min due ((source.due? world.source).getD due))
  | _ => source.due? world.source

def jump (time : Nat) (world : World State Item) : World State Item :=
  { world with clock := max world.clock time }

/-- Timers up to the given time go off one after the other. -/
def advanceFor : Nat → Nat → World State Item → World State Item
  | 0, time, world => (world.jump time).settle source
  | count + 1, time, world =>
      match world.timer? source with
      | none => (world.jump time).settle source
      | some due =>
          if due ≤ time then advanceFor count time ((world.jump due).settle source)
          else (world.jump time).settle source

/-- A timer moves the clock, so the span bounds the count of timers. -/
def advance (milliseconds : Nat) (world : World State Item) : World State Item :=
  advanceFor source (source.burst world.source + milliseconds + 8) (world.clock + milliseconds)
    (world.settle source)

/-- The caller looks before the worker whenever the clock has moved. -/
def waitFor : Nat → Nat → Duration → World State Item → Bool × World State Item
  | 0, _, _, world => (world.coordinator.outstanding = 0, world)
  | count + 1, deadline, limit, world =>
      if world.coordinator.outstanding = 0 then (true, world)
      else if deadline ≤ world.clock then
        (false, world.report
          [Shutdown.Coordinator.deadlineEvent world.coordinator.outstanding limit])
      else
        let settled := world.settle source
        if settled.coordinator.outstanding = 0 then (true, settled)
        else
          let due := min ((settled.timer? source).getD deadline) deadline
          waitFor count deadline limit (settled.jump due)

def waitWithTimeout (limit : Duration) (world : World State Item) : Bool × World State Item :=
  waitFor source (source.burst world.source + limit.milliseconds + 8)
    (world.clock + limit.milliseconds) limit world

/-- After each round that took something the worker may refill the feed, and an empty round is the
last. -/
def drainFor : Nat → Bool → World State Item → List Item × World State Item
  | 0, _, world => ([], world)
  | count + 1, progress, world =>
      match world.take? with
      | some (item, next) =>
          let (items, last) := drainFor count true next
          (item :: items, last)
      | none => if progress then drainFor count false (world.settle source) else ([], world)

def drain (world : World State Item) : List Item × World State Item :=
  let waiting := world.channel.buffer.size + world.channel.waiting.length
  drainFor source (2 * (waiting + source.burst world.source) + 8) false world

end NodeBridge.Observer.World
