/-
This file sends values to any number of readers and keeps only the newest ones.
A reader that falls behind learns how many values it has missed.
-/

namespace NodeBridge.Heads

/-- The newest value comes last, and a closed broadcast still hands out what it kept. -/
structure Broadcast (A : Type) where
  limit : Nat
  sent : Nat := 0
  kept : List A := []
  isOpen : Bool := true

/-- A reader gets a value, learns of a gap, has to wait or is at the end. -/
inductive Reading (A : Type) where
  | value (value : A)
  | lagged (skipped : Nat)
  | pending
  | closed

namespace Broadcast

variable {A : Type}

def send (value : A) (broadcast : Broadcast A) : Broadcast A :=
  let values := broadcast.kept ++ [value]
  { broadcast with
    sent := broadcast.sent + 1
    kept := values.drop (values.length - broadcast.limit) }

def close (broadcast : Broadcast A) : Broadcast A := { broadcast with isOpen := false }

/-- This is the place of the oldest value that is still there. -/
def oldest (broadcast : Broadcast A) : Nat := broadcast.sent - broadcast.kept.length

/-- A reader goes on from the place of its next value, and a gap moves it to the oldest one. -/
def read (place : Nat) (broadcast : Broadcast A) : Reading A × Nat :=
  if place < broadcast.oldest then (.lagged (broadcast.oldest - place), broadcast.oldest)
  else
    match broadcast.kept[place - broadcast.oldest]? with
    | some value => (.value value, place + 1)
    | none => (if broadcast.isOpen then .pending else .closed, place)

end Broadcast

end NodeBridge.Heads
