import NodeBridge.Feed.Capacity
import NodeBridge.Feed.Error
import NodeBridge.Feed.Queue

/-
This file defines the channel between those who forward items and the one who receives them.
Senders that find no room wait in line, and a slot that becomes free goes to the first of them.
-/

namespace NodeBridge.Feed

/-- A waiting sender has a ticket, and it may put its item down once it has a slot. -/
structure Waiter (A : Type) where
  ticket : Nat
  item : A
  hasSlot : Bool := false

/-- A channel without a capacity always has room. -/
structure Channel (A : Type) where
  capacity : Option Nat
  buffer : Queue A := .empty
  waiting : List (Waiter A) := []
  nextTicket : Nat := 0
  isOpen : Bool := true

/-- Forwarding succeeds, fails or waits under a ticket. -/
inductive Progress where
  | accepted
  | closed
  | waits (ticket : Nat)
  deriving DecidableEq

namespace Channel

variable {A : Type}

/-- A capacity of zero stands for no bound, and a large one is cut. -/
def ofCapacity (requested : Nat) : Channel A :=
  { capacity := if requested = 0 then none else some (clamp requested) }

/-- Slots that were given to waiting senders are not free. -/
def reserved (channel : Channel A) : Nat := (channel.waiting.filter Waiter.hasSlot).length

/-- This is the count of free slots, if there is a bound. -/
def free? (channel : Channel A) : Option Nat :=
  channel.capacity.map fun capacity => capacity - (channel.buffer.size + channel.reserved)

/-- Free slots are given out from the front of the line. -/
def grant : Nat → List (Waiter A) → List (Waiter A)
  | _, [] => []
  | 0, waiting => waiting
  | free + 1, waiter :: rest =>
      if waiter.hasSlot then waiter :: grant (free + 1) rest
      else { waiter with hasSlot := true } :: grant free rest

def reserve (channel : Channel A) : Channel A :=
  match channel.free? with
  | none => channel
  | some free => { channel with waiting := grant free channel.waiting }

/-- An item is put down at once if a slot is free, and otherwise its sender waits. -/
def offer (item : A) (channel : Channel A) : Progress × Channel A :=
  if !channel.isOpen then (.closed, channel)
  else if channel.free? = some 0 then
    let waiter : Waiter A := { ticket := channel.nextTicket, item }
    (.waits channel.nextTicket,
      { channel with
        waiting := channel.waiting ++ [waiter]
        nextTicket := channel.nextTicket + 1 })
  else (.accepted, { channel with buffer := channel.buffer.push item })

/-- A sender that stops waiting gives its slot back. -/
def cancel (ticket : Nat) (channel : Channel A) : Channel A :=
  { channel with waiting := channel.waiting.filter fun waiter => waiter.ticket ≠ ticket }.reserve

/-- A waiting sender looks whether it can go on. -/
def poll (ticket : Nat) (channel : Channel A) : Progress × Channel A :=
  if !channel.isOpen then (.closed, channel.cancel ticket)
  else
    match channel.waiting.find? fun waiter => waiter.ticket = ticket with
    | none => (.waits ticket, channel)
    | some waiter =>
        if waiter.hasSlot then
          (.accepted,
            { channel with
              waiting := channel.waiting.filter fun other => other.ticket ≠ ticket
              buffer := channel.buffer.push waiter.item })
        else (.waits ticket, channel)

/-- Taking an item frees its slot. -/
def take? (channel : Channel A) : Option (A × Channel A) :=
  channel.buffer.pop?.map fun (item, buffer) => (item, { channel with buffer }.reserve)

/-- Without a receiver the items that nobody took are lost. -/
def close (channel : Channel A) : Channel A :=
  { channel with isOpen := false, buffer := .empty }

end Channel

end NodeBridge.Feed
