import NodeBridge.Observer.Worker

/-
This file reads the life of an observer off what has happened, from the first to the latest.
Items and subscriptions are followed through the happenings that concern them.
-/

namespace NodeBridge.Observer

variable {State Item : Type}

section Throughout

variable {A : Type} {holds : List A → A → Prop} {past added : List A} {entry : A}

/-- Something holds of every entry and of what came before it. -/
def Throughout (holds : List A → A → Prop) (entries : List A) : Prop :=
  ∀ past entry future, entries = past ++ entry :: future → holds past entry

/-- Something holds of all of these entries when they come one after the other. -/
def Successive (holds : List A → A → Prop) (past : List A) : List A → Prop
  | [] => True
  | entry :: rest => holds past entry ∧ Successive holds (past ++ [entry]) rest

theorem Throughout.nil : Throughout holds [] := by
  intro past entry future split
  simp at split

theorem Throughout.snoc (throughout : Throughout holds past) (last : holds past entry) :
    Throughout holds (past ++ [entry]) := by
  intro before middle future split
  rcases future.eq_nil_or_concat with rfl | ⟨rest, final, rfl⟩
  · obtain ⟨rfl, same⟩ := List.append_inj' split rfl
    exact List.head_eq_of_cons_eq same ▸ last
  · rw [List.concat_eq_append, ← List.cons_append, ← List.append_assoc] at split
    exact throughout before middle rest (List.append_inj' split rfl).1

theorem Throughout.append (throughout : Throughout holds past)
    (successive : Successive holds past added) : Throughout holds (past ++ added) := by
  induction added generalizing past with
  | nil => simpa using throughout
  | cons entry rest inductionHypothesis =>
      obtain ⟨first, rests⟩ := successive
      have longer := inductionHypothesis (throughout.snoc first) rests
      simpa using longer

theorem Throughout.before (throughout : Throughout holds (past ++ added)) :
    Throughout holds past := by
  rintro before middle future rfl
  exact throughout before middle (future ++ added) (by simp)

end Throughout

namespace Happening

@[simp] def delivered? : Happening Item → Option Item
  | delivered _ item => some item
  | _ => none

@[simp] def forwarded? : Happening Item → Option Item
  | forwarded item => some item
  | _ => none

@[simp] def taken? : Happening Item → Option Item
  | taken item => some item
  | _ => none

@[simp] def cutOff? : Happening Item → Option Item
  | cutOff item => some item
  | _ => none

/-- The number of a subscription is known from its opening. -/
@[simp] def established? : Happening Item → Option Nat
  | established number _ => some number
  | _ => none

@[simp] def broken? : Happening Item → Option Nat
  | broken number _ => some number
  | _ => none

@[simp] def closed? : Happening Item → Option Nat
  | closed number => some number
  | _ => none

end Happening

namespace World

/-- These are the happenings from the first to the latest. -/
def chronicle (world : World State Item) : List (Happening Item) :=
  (world.history.map Prod.snd).reverse

/-- These items were obtained from subscriptions, over all of them and in order. -/
def delivered (world : World State Item) : List Item :=
  world.chronicle.filterMap Happening.delivered?

/-- These items were put into the feed. -/
def forwarded (world : World State Item) : List Item :=
  world.chronicle.filterMap Happening.forwarded?

/-- These items were received by the consumer. -/
def taken (world : World State Item) : List Item :=
  world.chronicle.filterMap Happening.taken?

/-- These items were dropped on their way when the worker came to its end. -/
def cut (world : World State Item) : List Item :=
  world.chronicle.filterMap Happening.cutOff?

/-- These are the numbers of the subscriptions that were ever opened. -/
def opened (world : World State Item) : List Nat :=
  world.chronicle.filterMap Happening.established?

/-- These subscriptions failed. -/
def failed (world : World State Item) : List Nat :=
  world.chronicle.filterMap Happening.broken?

/-- These subscriptions were closed, and each of them stands here once for each time. -/
def closed (world : World State Item) : List Nat :=
  world.chronicle.filterMap Happening.closed?

/-- An item that is taken leaves the buffer and is written down. -/
theorem takeCases {world next : World State Item} {item : Item}
    (taken : world.take? = some (item, next)) :
    ∃ channel, world.channel.take? = some (item, channel) ∧
      next = { world with channel, history := (world.clock, .taken item) :: world.history } := by
  simp only [take?, Option.map_eq_some_iff, Prod.mk.injEq, Prod.exists] at taken
  obtain ⟨_, channel, found, rfl, rfl⟩ := taken
  exact ⟨channel, found, rfl⟩

@[simp] theorem chronicleRecord (topic : String) (happening : Happening Item)
    (world : World State Item) :
    (world.record topic happening).chronicle = world.chronicle ++ [happening] := by
  simp [chronicle, record]

@[simp] theorem chronicleReport (events : List Event) (world : World State Item) :
    (world.report events).chronicle = world.chronicle := rfl

@[simp] theorem chronicleSource (state : State) (world : World State Item) :
    ({ world with source := state } : World State Item).chronicle = world.chronicle := rfl

@[simp] theorem chronicleChannel (channel : Feed.Channel Item) (world : World State Item) :
    ({ world with channel } : World State Item).chronicle = world.chronicle := rfl

@[simp] theorem chronicleSetWorker (worker : Worker Item) (world : World State Item) :
    (world.setWorker worker).chronicle = world.chronicle := rfl

@[simp] theorem attemptsReport (events : List Event) (world : World State Item) :
    (world.report events).attempts = world.attempts := rfl

@[simp] theorem attemptsSource (state : State) (world : World State Item) :
    ({ world with source := state } : World State Item).attempts = world.attempts := rfl

@[simp] theorem attemptsChannel (channel : Feed.Channel Item) (world : World State Item) :
    ({ world with channel } : World State Item).attempts = world.attempts := rfl

@[simp] theorem attemptsSetWorker (worker : Worker Item) (world : World State Item) :
    (world.setWorker worker).attempts = world.attempts := rfl

/-- The accounts of items grow with the chronicle. -/
theorem itemsAdded {world next : World State Item} {added : List (Happening Item)}
    (chronicle : next.chronicle = world.chronicle ++ added) :
    next.delivered = world.delivered ++ added.filterMap Happening.delivered? ∧
    next.forwarded = world.forwarded ++ added.filterMap Happening.forwarded? ∧
    next.taken = world.taken ++ added.filterMap Happening.taken? ∧
    next.cut = world.cut ++ added.filterMap Happening.cutOff? := by
  simp [delivered, forwarded, taken, cut, chronicle]

/-- The accounts of subscriptions grow with the chronicle. -/
theorem handlesAdded {world next : World State Item} {added : List (Happening Item)}
    (chronicle : next.chronicle = world.chronicle ++ added) :
    next.opened = world.opened ++ added.filterMap Happening.established? ∧
    next.failed = world.failed ++ added.filterMap Happening.broken? ∧
    next.closed = world.closed ++ added.filterMap Happening.closed? := by
  simp [opened, failed, closed, chronicle]

/-- Whoever does not look at what is taken sees nothing of it. -/
theorem takingUnseen {B : Type} (choose : Happening Item → Option B) (items : List Item)
    (silent : ∀ item, choose (.taken item) = none) :
    (items.map .taken).filterMap choose = [] := by
  simp [silent]

/-- What the consumer takes is nobody else's business. -/
theorem keptByTaking {world next : World State Item} {items : List Item}
    (chronicle : next.chronicle = world.chronicle ++ items.map .taken) :
    (next.delivered = world.delivered ∧ next.forwarded = world.forwarded ∧
      next.cut = world.cut) ∧
    next.opened = world.opened ∧ next.failed = world.failed ∧ next.closed = world.closed := by
  obtain ⟨delivered, forwarded, _, cut⟩ := itemsAdded chronicle
  obtain ⟨opened, failed, closed⟩ := handlesAdded chronicle
  rw [delivered, forwarded, cut, opened, failed, closed]
  repeat rw [takingUnseen _ _ fun _ => rfl]
  simp only [List.append_nil, and_self]

section Chronicle

variable (source : Source State Item) (worker : Worker Item) (world : World State Item)

@[simp] theorem chronicleBeginOpen :
    (world.beginOpen source worker).chronicle = world.chronicle ++ [.attempted] := by
  simp [beginOpen]

@[simp] theorem chronicleSubscribed (topic : String) :
    (world.subscribed topic worker).chronicle =
      world.chronicle ++ [.established worker.opened topic, .changed .subscribed] := by
  simp [subscribed]

@[simp] theorem chronicleRefused (error : OpenError) :
    (world.refused error worker).chronicle = world.chronicle ++
      [.refused error (RetryPolicy.nextFailure worker.failures),
        .delayed (RetryPolicy.nextFailure worker.failures)] := by
  simp [refused, beginPause]

@[simp] theorem chronicleBroken (number : Nat) (error : StreamError) :
    (world.broken source number error worker).chronicle = world.chronicle ++
      [.broken number error, .changed .unsubscribed,
        .delayed (RetryPolicy.nextFailure worker.failures)] := by
  simp [broken, beginPause]

end Chronicle

theorem chronicleSpawn {world : World State Item} (topic : String) (policy : RetryPolicy)
    (capacity : Nat) (fresh : world.history = []) :
    (world.spawn topic policy capacity).chronicle = [] := by
  simp [chronicle, spawn, setWorker, fresh]

/-- Only the beginning of an attempt adds to the attempts. -/
@[simp] theorem attemptsRecord (topic : String) (happening : Happening Item)
    (world : World State Item) :
    (world.record topic happening).attempts =
      world.attempts ++ (match happening with
        | .attempted => [world.clock]
        | _ => []) := by
  cases happening <;> simp [attempts, record]

end World

end NodeBridge.Observer
