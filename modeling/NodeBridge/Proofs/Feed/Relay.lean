import NodeBridge.Proofs.Feed.Traffic

/-
This file lets one producer, which waits for every item, and one consumer take turns.
However they take turns, no item is lost or overtaken, and if both get their turns again and again,
everything arrives, whatever the capacity is.
-/

namespace NodeBridge.Feed

/-- The items that are due are forwarded one after the other. -/
structure Relay (A : Type) where
  channel : Channel A
  sender : Option (Nat × A) := none
  due : List A
  received : List A := []

/-- Either side gets its turn. -/
inductive Side where
  | producer
  | consumer
  deriving DecidableEq

namespace Relay

variable {A : Type} {relay : Relay A}

def ofCapacity (requested : Nat) (items : List A) : Relay A :=
  { channel := .ofCapacity requested, due := items }

/-- The producer goes on with the item that waits, and starts the next one only after it. -/
def produce (relay : Relay A) : Relay A :=
  match relay.sender, relay.due with
  | some (ticket, item), _ =>
      { relay with
        channel := (relay.channel.poll ticket).2
        sender := (relay.channel.poll ticket).1.sender? item }
  | none, item :: rest =>
      { relay with
        channel := (relay.channel.offer item).2
        sender := (relay.channel.offer item).1.sender? item
        due := rest }
  | none, [] => relay

/-- The consumer takes an item if there is one. -/
def consume (relay : Relay A) : Relay A :=
  match relay.channel.take? with
  | some (item, channel) => { relay with channel, received := relay.received ++ [item] }
  | none => relay

def turn (relay : Relay A) : Side → Relay A
  | .producer => relay.produce
  | .consumer => relay.consume

def run (relay : Relay A) (turns : List Side) : Relay A := turns.foldl turn relay

/-- These items were received or are on their way, in this order. -/
def items (relay : Relay A) : List A :=
  relay.received ++ relay.channel.buffer.toList ++ (relay.sender.map Prod.snd).toList ++ relay.due

/-- An item has three steps to take until it arrives. -/
def distance (relay : Relay A) : Nat :=
  3 * relay.due.length + 2 * relay.sender.toList.length + relay.channel.buffer.size

/-- The channel is open and has room for an item. -/
structure Sound (relay : Relay A) : Prop where
  channel : relay.channel.Sound relay.sender
  isOpen : relay.channel.isOpen = true
  roomy : relay.channel.capacity ≠ some 0

theorem soundOfCapacity (requested : Nat) (items : List A) :
    (ofCapacity requested items).Sound where
  channel := Channel.soundOfCapacity requested
  isOpen := rfl
  roomy := by
    intro full
    have capacity : (if requested = 0 then none else some (clamp requested)) = some 0 := full
    split at capacity
    · contradiction
    · have clamped := Option.some.inj capacity
      rw [clamp, maximumCapacity] at clamped
      omega

/-- An item that is handed to an open channel is in the buffer or with its sender. -/
theorem carriesItem {before after : Channel A} {item : A} {progress : Progress}
    (handed : before.Handed item progress after) (isOpen : before.isOpen = true) :
    after.buffer.toList ++ ((progress.sender? item).map Prod.snd).toList =
      before.buffer.toList ++ [item] := by
  rw [handed.buffer, List.append_assoc]
  cases progress with
  | accepted | waits => rfl
  | closed =>
      rw [handed.refused rfl] at isOpen
      contradiction

/-- An item that is handed to an open channel has at most two steps left. -/
theorem stepsLeft {before after : Channel A} {item : A} {progress : Progress}
    (handed : before.Handed item progress after) :
    2 * (progress.sender? item).toList.length + after.buffer.size ≤ before.buffer.size + 2 := by
  rw [← Queue.lengthToList, ← Queue.lengthToList, handed.buffer, List.length_append]
  cases progress with
  | accepted | closed | waits =>
      simp only [Progress.sender?, Progress.put, Option.toList_none, Option.toList_some,
        List.length_nil, List.length_singleton]
      omega

/-- The producer hands an item on, or nothing changes. -/
theorem soundProduce (sound : relay.Sound) :
    relay.produce.Sound ∧ relay.produce.items = relay.items ∧
      (relay.produce = relay ∨ relay.produce.distance < relay.distance) := by
  obtain ⟨channel, sender, due, received⟩ := relay
  have isOpen : channel.isOpen = true := sound.isOpen
  cases sender with
  | some pair =>
      obtain ⟨ticket, item⟩ := pair
      have handed : channel.Handed item (channel.poll ticket).1 (channel.poll ticket).2 :=
        Channel.handedPoll sound.channel
      refine ⟨⟨handed.sound, handed.isOpen.trans isOpen, ?_⟩, ?_, ?_⟩
      · change (channel.poll ticket).2.capacity ≠ some 0
        rw [handed.capacity]
        exact sound.roomy
      · change received ++ (channel.poll ticket).2.buffer.toList ++
          (((channel.poll ticket).1.sender? item).map Prod.snd).toList ++ due =
          received ++ channel.buffer.toList ++ [item] ++ due
        rw [List.append_assoc received, carriesItem handed isOpen, ← List.append_assoc]
      · rcases channel.pollCases ticket with ⟨closed, _⟩ | ⟨_, waits⟩ |
          ⟨_, waiter, _, _, _, accepted⟩
        · exact absurd (isOpen.symm.trans closed) nofun
        · left
          rw [produce]
          dsimp only
          rw [waits]
          rfl
        · right
          simp only [produce, distance, accepted, Progress.sender?, Queue.push,
            Option.toList_none, Option.toList_some, List.length_nil, List.length_singleton]
          omega
  | none =>
      cases due with
      | nil => exact ⟨sound, rfl, .inl rfl⟩
      | cons item rest =>
          have handed : channel.Handed item (channel.offer item).1 (channel.offer item).2 :=
            Channel.handedOffer sound.channel item
          have steps := stepsLeft handed
          refine ⟨⟨handed.sound, handed.isOpen.trans isOpen, ?_⟩, ?_, .inr ?_⟩
          · change (channel.offer item).2.capacity ≠ some 0
            rw [handed.capacity]
            exact sound.roomy
          · change received ++ (channel.offer item).2.buffer.toList ++
              (((channel.offer item).1.sender? item).map Prod.snd).toList ++ rest =
              received ++ channel.buffer.toList ++ [] ++ item :: rest
            rw [List.append_assoc received, carriesItem handed isOpen]
            simp
          · simp only [produce, distance, List.length_cons, Option.toList_none, List.length_nil]
            omega

/-- The consumer takes the oldest item, or there is none. -/
theorem soundConsume (sound : relay.Sound) :
    relay.consume.Sound ∧ relay.consume.items = relay.items ∧
      (relay.consume = relay ∨ relay.consume.distance < relay.distance) := by
  rw [consume]
  cases taken : relay.channel.take? with
  | none => exact ⟨sound, rfl, .inl rfl⟩
  | some pair =>
      obtain ⟨item, channel⟩ := pair
      have buffer := Channel.bufferTake taken
      refine ⟨⟨Channel.soundTake sound.channel taken, (Channel.isOpenTake taken).trans sound.isOpen,
        ?_⟩, ?_, .inr ?_⟩
      · change channel.capacity ≠ some 0
        rw [Channel.capacityTake taken]
        exact sound.roomy
      · simp [items, buffer]
      · have shorter := congrArg List.length buffer
        rw [List.length_cons, Queue.lengthToList, Queue.lengthToList] at shorter
        simp only [distance]
        omega

theorem soundTurn (sound : relay.Sound) (side : Side) :
    (relay.turn side).Sound ∧ (relay.turn side).items = relay.items ∧
      (relay.turn side = relay ∨ (relay.turn side).distance < relay.distance) := by
  cases side with
  | producer => exact soundProduce sound
  | consumer => exact soundConsume sound

/-- Either every turn leaves the relay as it is, or the items come closer. -/
theorem soundRun (sound : relay.Sound) (turns : List Side) :
    (relay.run turns).Sound ∧ (relay.run turns).items = relay.items ∧
      ((relay.run turns = relay ∧ ∀ side ∈ turns, relay.turn side = relay) ∨
        (relay.run turns).distance < relay.distance) := by
  induction turns generalizing relay with
  | nil => exact ⟨sound, rfl, .inl ⟨rfl, fun _ absent => absurd absent List.not_mem_nil⟩⟩
  | cons side rest inductionHypothesis =>
      obtain ⟨turned, same, moved⟩ := soundTurn sound side
      obtain ⟨final, sameLater, movedLater⟩ := inductionHypothesis turned
      refine ⟨final, sameLater.trans same, ?_⟩
      rcases moved with still | closer
      · rw [still] at movedLater
        rcases movedLater with ⟨stays, all⟩ | closer
        · left
          rw [run, List.foldl_cons, still]
          exact ⟨stays, List.forall_mem_cons.mpr ⟨still, all⟩⟩
        · right
          rw [run, List.foldl_cons, still]
          exact closer
      · right
        rcases movedLater with ⟨stays, _⟩ | closerLater
        · rw [run, List.foldl_cons]
          rw [run] at stays
          rw [stays]
          exact closer
        · exact Nat.lt_trans closerLater closer

/-- A channel with room and nothing in its buffer has a slot for its one sender. -/
theorem slotOfEmpty {channel : Channel A} {ticket : Nat} {item : A}
    (sound : channel.Sound (some (ticket, item))) (roomy : channel.capacity ≠ some 0)
    (empty : channel.buffer.toList = []) {later : Nat} :
    (channel.poll ticket).1 ≠ .waits later := by
  intro waits
  have full := Channel.fullOfWaits sound waits
  have isEmpty : channel.buffer.size = 0 := by
    rw [← Queue.lengthToList, empty]
    rfl
  obtain ⟨hasSlot, one⟩ := sound.serves
  cases hasSlot with
  | true =>
      rcases channel.pollCases ticket with ⟨_, refused⟩ | ⟨isOpen, _⟩ | ⟨_, _, _, _, _, accepted⟩
      · rw [refused] at waits
        contradiction
      · simp [Channel.poll, isOpen, one] at waits
      · rw [accepted] at waits
        contradiction
  | false =>
      cases capacity : channel.capacity with
      | none => simp [Channel.free?, capacity] at full
      | some bound =>
          simp [Channel.free?, capacity, isEmpty, Channel.reserved, one] at full
          exact roomy (capacity.trans (congrArg some full))

/-- If no side can do anything, everything has arrived. -/
theorem arrivedOfStill (sound : relay.Sound) (producer : relay.turn .producer = relay)
    (consumer : relay.turn .consumer = relay) : relay.received = relay.items := by
  obtain ⟨channel, sender, due, received⟩ := relay
  have empty : channel.buffer.toList = [] := by
    cases taken : channel.take? with
    | none => exact Channel.takeEqNone.mp taken
    | some pair =>
        obtain ⟨item, next⟩ := pair
        simp [turn, consume, taken] at consumer
  cases sender with
  | some pair =>
      obtain ⟨ticket, item⟩ := pair
      have waits : (channel.poll ticket).1.sender? item = some (ticket, item) :=
        congrArg Relay.sender producer
      have goesOn {later : Nat} : (channel.poll ticket).1 ≠ .waits later :=
        slotOfEmpty sound.channel sound.roomy empty
      cases progress : (channel.poll ticket).1 with
      | waits later => exact absurd progress goesOn
      | accepted | closed =>
          rw [progress] at waits
          contradiction
  | none =>
      cases due with
      | nil => simp [items, empty]
      | cons item rest =>
          have shorter := congrArg (fun relay => relay.due.length) producer
          simp [turn, produce] at shorter

theorem runOfStill (still : ∀ side, relay.turn side = relay) (turns : List Side) :
    relay.run turns = relay := by
  induction turns with
  | nil => rfl
  | cons side rest inductionHypothesis =>
      rw [run, List.foldl_cons, still side]
      exact inductionHypothesis

theorem arrivedOfNear (near : relay.distance = 0) : relay.received = relay.items := by
  obtain ⟨channel, sender, due, received⟩ := relay
  simp only [distance] at near
  have empty : channel.buffer.toList = [] := by
    rw [← List.length_eq_zero_iff, Queue.lengthToList]
    omega
  have nothingDue : due = [] := List.length_eq_zero_iff.mp (by omega)
  cases sender with
  | none => simp [items, empty, nothingDue]
  | some pair =>
      rw [Option.toList_some, List.length_singleton] at near
      omega

/-- A round gives both sides a turn. -/
def IsRound (turns : List Side) : Prop := ∀ side : Side, side ∈ turns

/-- After enough rounds everything has arrived. -/
theorem arrived (sound : relay.Sound) (rounds : List (List Side))
    (fair : ∀ turns ∈ rounds, IsRound turns) (enough : relay.distance ≤ rounds.length) :
    (relay.run rounds.flatten).received = relay.items := by
  induction rounds generalizing relay with
  | nil => exact arrivedOfNear (Nat.le_zero.mp enough)
  | cons turns rest inductionHypothesis =>
      obtain ⟨round, later⟩ := List.forall_mem_cons.mp fair
      obtain ⟨after, same, ⟨_, still⟩ | closer⟩ := soundRun sound turns
      · rw [runOfStill fun side => still side (round side)]
        exact arrivedOfStill sound (still _ (round _)) (still _ (round _))
      · rw [List.flatten_cons, run, List.foldl_append, ← same]
        refine inductionHypothesis after later ?_
        change (relay.run turns).distance ≤ rest.length
        rw [List.length_cons] at enough
        omega

variable {requested : Nat} {traffic : Traffic A}

/-- The relay is what a session looks like in which each call waits for the one before. -/
structure Shows (relay : Relay A) (traffic : Traffic A) : Prop where
  channel : traffic.dispatch.channel = relay.channel
  received : traffic.received = relay.received
  dispatcherHeld : traffic.dispatch.dispatcherHeld = true
  feedHeld : traffic.dispatch.feedHeld = true

end Relay

end NodeBridge.Feed
