/-
This file defines queues that take items at the back and give them up at the front.
The two lists of a queue together hold its items in order.
-/

namespace NodeBridge.Feed

/-- The back is kept in reverse, and the size is known without counting. -/
structure Queue (A : Type) where
  front : List A := []
  back : List A := []
  size : Nat := 0
  sized : size = front.length + back.length := by simp

namespace Queue

variable {A : Type}

/-- A queue has no items at first. -/
def empty : Queue A := { front := [], back := [], size := 0, sized := rfl }

/-- These are the items from the oldest to the newest. -/
def toList (queue : Queue A) : List A := queue.front ++ queue.back.reverse

def push (queue : Queue A) (item : A) : Queue A where
  front := queue.front
  back := item :: queue.back
  size := queue.size + 1
  sized := by have := queue.sized; simp; omega

/-- The oldest item is taken, unless there is none. -/
def pop? : Queue A → Option (A × Queue A)
  | ⟨item :: rest, back, size, sized⟩ =>
      some (item, ⟨rest, back, size - 1, by simp at sized; omega⟩)
  | ⟨[], back, _, _⟩ =>
      match back.reverse with
      | [] => none
      | item :: rest => some (item, { front := rest, size := rest.length })

theorem lengthToList (queue : Queue A) : queue.toList.length = queue.size := by
  simp [toList, queue.sized]

@[simp] theorem toListPush (queue : Queue A) (item : A) :
    (queue.push item).toList = queue.toList ++ [item] := by
  simp [toList, push]

theorem toListOfPop {queue rest : Queue A} {item : A} (popped : queue.pop? = some (item, rest)) :
    queue.toList = item :: rest.toList := by
  obtain ⟨front, back, size, sized⟩ := queue
  cases front with
  | cons first others =>
      simp only [pop?, Option.some.injEq, Prod.mk.injEq] at popped
      obtain ⟨rfl, rfl⟩ := popped
      simp [toList]
  | nil =>
      cases reversed : back.reverse with
      | nil => simp [pop?, reversed] at popped
      | cons first others =>
          simp only [pop?, reversed, Option.some.injEq, Prod.mk.injEq] at popped
          obtain ⟨rfl, rfl⟩ := popped
          simp [toList, reversed]

theorem popEqNone {queue : Queue A} : queue.pop? = none ↔ queue.toList = [] := by
  obtain ⟨front, back, size, sized⟩ := queue
  cases front with
  | cons first others => simp [pop?, toList]
  | nil => cases reversed : back.reverse <;> simp [pop?, toList, reversed]

end Queue

end NodeBridge.Feed
