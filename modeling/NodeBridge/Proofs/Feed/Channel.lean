import NodeBridge.Feed.Channel

/-
This file shows what the operations of a channel keep.
A bounded channel never promises more slots than it has, and a channel with one sender
hands that sender's items on in their order.
-/

namespace NodeBridge.Feed

namespace Channel

variable {A : Type} {channel : Channel A}

/-- Items in the buffer and slots that were given out stay within the capacity. -/
def Fits (channel : Channel A) : Prop :=
  ∀ capacity, channel.capacity = some capacity →
    channel.buffer.size + channel.reserved ≤ capacity

/-- The line is empty, or its one sender waits with this ticket and this item. -/
def Serves (channel : Channel A) : Option (Nat × A) → Prop
  | none => channel.waiting = []
  | some (ticket, item) => ∃ hasSlot, channel.waiting = [⟨ticket, item, hasSlot⟩]

/-- A sender waits without a slot only while there is none to give. -/
def Tight (channel : Channel A) : Prop :=
  channel.isOpen = true →
    ∀ waiter ∈ channel.waiting, waiter.hasSlot = false → channel.free? = some 0

/-- An offer is refused by a closed channel, waits at a full one and is accepted otherwise. -/
theorem offerCases (channel : Channel A) (item : A) :
    (channel.isOpen = false ∧ channel.offer item = (.closed, channel)) ∨
    (channel.isOpen = true ∧ channel.free? = some 0 ∧
      channel.offer item = (.waits channel.nextTicket, { channel with
        waiting := channel.waiting ++ [{ ticket := channel.nextTicket, item }]
        nextTicket := channel.nextTicket + 1 })) ∨
    (channel.isOpen = true ∧ channel.free? ≠ some 0 ∧
      channel.offer item = (.accepted, { channel with buffer := channel.buffer.push item })) := by
  by_cases isOpen : channel.isOpen = true
  · by_cases full : channel.free? = some 0
    · exact .inr (.inl ⟨isOpen, full, by simp [offer, isOpen, full]⟩)
    · exact .inr (.inr ⟨isOpen, full, by simp [offer, isOpen, full]⟩)
  · have closed : channel.isOpen = false := by simpa using isOpen
    exact .inl ⟨closed, by simp [offer, closed]⟩

/-- An offer to an open channel without a bound is accepted at once. -/
theorem offerUnbounded (unbounded : channel.capacity = none) (item : A) :
    (channel.isOpen = true ∧
      channel.offer item = (.accepted, { channel with buffer := channel.buffer.push item })) ∨
    (channel.isOpen = false ∧ channel.offer item = (.closed, channel)) := by
  rcases channel.offerCases item with ⟨closed, refused⟩ | ⟨_, full, _⟩ | ⟨isOpen, _, accepted⟩
  · exact .inr ⟨closed, refused⟩
  · simp [free?, unbounded] at full
  · exact .inl ⟨isOpen, accepted⟩

/-- A look fails at a closed channel, puts the item down with a slot and waits otherwise. -/
theorem pollCases (channel : Channel A) (ticket : Nat) :
    (channel.isOpen = false ∧ channel.poll ticket = (.closed, channel.cancel ticket)) ∨
    (channel.isOpen = true ∧ channel.poll ticket = (.waits ticket, channel)) ∨
    (channel.isOpen = true ∧ ∃ waiter ∈ channel.waiting,
      waiter.ticket = ticket ∧ waiter.hasSlot = true ∧
      channel.poll ticket = (.accepted, { channel with
        waiting := channel.waiting.filter fun other => other.ticket ≠ ticket
        buffer := channel.buffer.push waiter.item })) := by
  by_cases isOpen : channel.isOpen = true
  · right
    cases found : channel.waiting.find? fun waiter => waiter.ticket = ticket with
    | none => exact .inl ⟨isOpen, by simp [poll, isOpen, found]⟩
    | some waiter =>
        have member := List.mem_of_find?_eq_some found
        have sameTicket : waiter.ticket = ticket := by simpa using List.find?_some found
        by_cases granted : waiter.hasSlot = true
        · exact .inr ⟨isOpen, waiter, member, sameTicket, granted, by
            simp [poll, isOpen, found, granted]⟩
        · exact .inl ⟨isOpen, by simp [poll, isOpen, found, granted]⟩
  · have closed : channel.isOpen = false := by simpa using isOpen
    exact .inl ⟨closed, by simp [poll, closed]⟩

/-- Giving out slots fills at most as many as were free. -/
theorem slotsGrant (free : Nat) (waiting : List (Waiter A)) :
    ((grant free waiting).filter Waiter.hasSlot).length ≤
      (waiting.filter Waiter.hasSlot).length + free := by
  fun_induction grant free waiting with
  | case1 => simp
  | case2 => simp
  | case3 free waiter rest granted inductionHypothesis =>
      simp only [List.filter_cons, granted, if_true, List.length_cons]
      omega
  | case4 free waiter rest waits inductionHypothesis =>
      simp only [List.filter_cons, waits, if_true, List.length_cons]
      simp only [Bool.false_eq_true, if_false]
      omega

/-- Somebody is left without a slot only if all free slots were given out. -/
theorem grantLeaves {free : Nat} {waiting : List (Waiter A)} {waiter : Waiter A}
    (member : waiter ∈ grant free waiting) (left : waiter.hasSlot = false) :
    ((grant free waiting).filter Waiter.hasSlot).length =
      (waiting.filter Waiter.hasSlot).length + free := by
  fun_induction grant free waiting with
  | case1 => simp at member
  | case2 => simp
  | case3 free first rest granted inductionHypothesis =>
      rcases List.mem_cons.mp member with rfl | member
      · simp [granted] at left
      · have given := inductionHypothesis member
        simp only [List.filter_cons, granted, if_true, List.length_cons]
        omega
  | case4 free first rest waits inductionHypothesis =>
      rcases List.mem_cons.mp member with rfl | member
      · simp at left
      · have given := inductionHypothesis member
        simp only [List.filter_cons, waits, if_true, List.length_cons]
        simp only [Bool.false_eq_true, if_false]
        omega

theorem bufferReserve (channel : Channel A) : channel.reserve.buffer = channel.buffer := by
  unfold reserve
  split <;> rfl

theorem capacityReserve (channel : Channel A) : channel.reserve.capacity = channel.capacity := by
  unfold reserve
  split <;> rfl

theorem isOpenReserve (channel : Channel A) : channel.reserve.isOpen = channel.isOpen := by
  unfold reserve
  split <;> rfl

theorem fitsReserve (fits : channel.Fits) : channel.reserve.Fits := by
  intro capacity bounded
  rw [capacityReserve] at bounded
  have before := fits capacity bounded
  have isFree : channel.free? = some (capacity - (channel.buffer.size + channel.reserved)) := by
    simp [free?, bounded]
  have granted := slotsGrant (capacity - (channel.buffer.size + channel.reserved)) channel.waiting
  simp only [reserve, isFree, reserved] at granted ⊢
  simp only [reserved] at before
  omega

/-- A channel with a bound is tight again after its free slots were given out. -/
theorem tightReserve (bounded : channel.capacity = none → channel.waiting = []) :
    channel.reserve.Tight := by
  intro _ waiter member left
  cases bound : channel.capacity with
  | none =>
      have nobody : channel.reserve.waiting = [] := by simp [reserve, free?, bound, bounded bound]
      simp [nobody] at member
  | some capacity =>
      have isFree : channel.free? =
          some (capacity - (channel.buffer.size + channel.reserved)) := by
        simp [free?, bound]
      simp only [reserve, isFree] at member ⊢
      have given := grantLeaves member left
      simp only [free?, bound, Option.map_some, reserved, Option.some.injEq] at given ⊢
      omega

theorem fitsOfCapacity (requested : Nat) : (ofCapacity requested : Channel A).Fits := by
  intro capacity _
  exact Nat.zero_le capacity

theorem fitsCancel (fits : channel.Fits) (ticket : Nat) : (channel.cancel ticket).Fits := by
  apply fitsReserve
  intro capacity bounded
  have before := fits capacity bounded
  have fewer : ((channel.waiting.filter fun waiter => waiter.ticket ≠ ticket).filter
      Waiter.hasSlot).length ≤ (channel.waiting.filter Waiter.hasSlot).length :=
    (List.filter_sublist.filter Waiter.hasSlot).length_le
  simp only [reserved] at before ⊢
  omega

theorem fitsOffer (fits : channel.Fits) (item : A) : (channel.offer item).2.Fits := by
  rcases channel.offerCases item with ⟨_, refused⟩ | ⟨_, _, waits⟩ | ⟨_, room, accepted⟩
  · rw [refused]
    exact fits
  · rw [waits]
    intro capacity bounded
    have before := fits capacity bounded
    simpa [reserved] using before
  · rw [accepted]
    intro capacity bounded
    have bounded : channel.capacity = some capacity := bounded
    have before := fits capacity bounded
    have positive : capacity - (channel.buffer.size + channel.reserved) ≠ 0 := by
      simpa [free?, bounded] using room
    change channel.buffer.size + 1 + channel.reserved ≤ capacity
    omega

/-- A sender that puts its item down turns its slot into a place in the buffer. -/
theorem fitsPoll (fits : channel.Fits) (ticket : Nat) : (channel.poll ticket).2.Fits := by
  rcases channel.pollCases ticket with ⟨_, closed⟩ | ⟨_, waits⟩ |
    ⟨_, waiter, member, sameTicket, granted, accepted⟩
  · rw [closed]
    exact fitsCancel fits ticket
  · rw [waits]
    exact fits
  · rw [accepted]
    intro capacity bounded
    have before := fits capacity bounded
    have fewer : ((channel.waiting.filter fun other => other.ticket ≠ ticket).filter
        Waiter.hasSlot).length < (channel.waiting.filter Waiter.hasSlot).length := by
      rw [List.filter_filter]
      simp only [Bool.and_comm (Waiter.hasSlot _)]
      rw [← List.filter_filter]
      apply List.length_filter_lt_length_iff_exists.mpr
      exact ⟨waiter, List.mem_filter.mpr ⟨member, granted⟩, by simp [sameTicket]⟩
    change channel.buffer.size + 1 + _ ≤ capacity
    simp only [reserved] at before ⊢
    omega

theorem fitsTake {item : A} {next : Channel A} (fits : channel.Fits)
    (taken : channel.take? = some (item, next)) : next.Fits := by
  simp only [take?, Option.map_eq_some_iff, Prod.mk.injEq, Prod.exists] at taken
  obtain ⟨first, rest, popped, rfl, rfl⟩ := taken
  apply fitsReserve
  intro capacity bounded
  have before := fits capacity bounded
  have shorter : rest.size + 1 = channel.buffer.size := by
    rw [← Queue.lengthToList, ← Queue.lengthToList, Queue.toListOfPop popped]
    rfl
  change rest.size + channel.reserved ≤ capacity
  omega

theorem fitsClose (fits : channel.Fits) : channel.close.Fits := by
  intro capacity bounded
  have before := fits capacity bounded
  change 0 + channel.reserved ≤ capacity
  omega

/-- The item that is taken is the oldest one of the buffer. -/
theorem bufferTake {item : A} {next : Channel A} (taken : channel.take? = some (item, next)) :
    channel.buffer.toList = item :: next.buffer.toList := by
  simp only [take?, Option.map_eq_some_iff, Prod.mk.injEq, Prod.exists] at taken
  obtain ⟨first, rest, popped, rfl, rfl⟩ := taken
  rw [bufferReserve]
  exact Queue.toListOfPop popped

theorem takeEqNone : channel.take? = none ↔ channel.buffer.toList = [] := by
  simp [take?, Queue.popEqNone]

theorem capacityTake {item : A} {next : Channel A} (taken : channel.take? = some (item, next)) :
    next.capacity = channel.capacity := by
  simp only [take?, Option.map_eq_some_iff, Prod.mk.injEq, Prod.exists] at taken
  obtain ⟨first, rest, _, rfl, rfl⟩ := taken
  exact capacityReserve _

theorem isOpenTake {item : A} {next : Channel A} (taken : channel.take? = some (item, next)) :
    next.isOpen = channel.isOpen := by
  simp only [take?, Option.map_eq_some_iff, Prod.mk.injEq, Prod.exists] at taken
  obtain ⟨first, rest, _, rfl, rfl⟩ := taken
  exact isOpenReserve _

/-- Slots are given to the waiting sender, and nobody else comes or goes. -/
theorem servesReserve {sender : Option (Nat × A)} (serves : channel.Serves sender) :
    channel.reserve.Serves sender := by
  unfold reserve
  split
  · exact serves
  case h_2 free _ =>
    match sender, serves with
    | none, nobody => simp_all [Serves, grant]
    | some (ticket, item), ⟨hasSlot, one⟩ =>
        cases free with
        | zero => exact ⟨hasSlot, by simp [one, grant]⟩
        | succ free => cases hasSlot <;> exact ⟨true, by simp [one, grant]⟩

theorem servesTake {item : A} {next : Channel A} {sender : Option (Nat × A)}
    (serves : channel.Serves sender) (taken : channel.take? = some (item, next)) :
    next.Serves sender := by
  simp only [take?, Option.map_eq_some_iff, Prod.mk.injEq, Prod.exists] at taken
  obtain ⟨first, rest, _, rfl, rfl⟩ := taken
  exact servesReserve (by cases sender <;> exact serves)

/-- Once its sender gives up, the line is empty. -/
theorem servesCancel {ticket : Nat} {item : A} (serves : channel.Serves (some (ticket, item))) :
    (channel.cancel ticket).Serves none := by
  obtain ⟨hasSlot, one⟩ := serves
  apply servesReserve
  simp [Serves, one]

end Channel

namespace Progress

variable {A : Type}

/-- Whoever has to wait stands in line with the item. -/
def sender? (item : A) : Progress → Option (Nat × A)
  | waits ticket => some (ticket, item)
  | _ => none

/-- An item that was accepted is in the buffer. -/
def put (item : A) : Progress → List A
  | accepted => [item]
  | _ => []

end Progress

namespace Channel

variable {A : Type} {channel : Channel A} {sender : Option (Nat × A)}

/-- The channel and its one sender agree, and nobody waits for a channel without a bound. -/
structure Sound (channel : Channel A) (sender : Option (Nat × A)) : Prop where
  fits : channel.Fits
  tight : channel.Tight
  serves : channel.Serves sender
  bounded : channel.capacity = none → channel.waiting = []

/-- The item is in the buffer, or its sender waits, or the channel was closed. -/
structure Handed (before : Channel A) (item : A) (progress : Progress) (after : Channel A) :
    Prop where
  capacity : after.capacity = before.capacity
  isOpen : after.isOpen = before.isOpen
  sound : after.Sound (progress.sender? item)
  buffer : after.buffer.toList = before.buffer.toList ++ progress.put item
  refused : progress = .closed → before.isOpen = false

theorem tightOfNobody (nobody : channel.waiting = []) : channel.Tight := by
  intro _ waiter member
  simp [nobody] at member

theorem soundOfCapacity (requested : Nat) : (ofCapacity requested : Channel A).Sound none where
  fits := fitsOfCapacity requested
  tight := tightOfNobody rfl
  serves := rfl
  bounded _ := rfl

theorem soundTake {item : A} {next : Channel A} (sound : channel.Sound sender)
    (taken : channel.take? = some (item, next)) : next.Sound sender where
  fits := fitsTake sound.fits taken
  tight := by
    simp only [take?, Option.map_eq_some_iff, Prod.mk.injEq, Prod.exists] at taken
    obtain ⟨first, rest, _, rfl, rfl⟩ := taken
    exact tightReserve sound.bounded
  serves := servesTake sound.serves taken
  bounded unbounded := by
    simp only [take?, Option.map_eq_some_iff, Prod.mk.injEq, Prod.exists] at taken
    obtain ⟨first, rest, _, rfl, rfl⟩ := taken
    rw [capacityReserve] at unbounded
    have unbounded : channel.capacity = none := unbounded
    simp [reserve, free?, unbounded, sound.bounded unbounded]

theorem soundClose (sound : channel.Sound sender) : channel.close.Sound sender where
  fits := fitsClose sound.fits
  tight isOpen := by simp [close] at isOpen
  serves := by cases sender <;> exact sound.serves
  bounded := sound.bounded

theorem soundCancel {ticket : Nat} {item : A} (sound : channel.Sound (some (ticket, item))) :
    (channel.cancel ticket).Sound none where
  fits := fitsCancel sound.fits ticket
  tight := tightOfNobody (servesCancel sound.serves)
  serves := servesCancel sound.serves
  bounded _ := servesCancel sound.serves

/-- An item that is offered while nobody waits is handed on. -/
theorem handedOffer (sound : channel.Sound none) (item : A) :
    channel.Handed item (channel.offer item).1 (channel.offer item).2 := by
  have fits := fitsOffer sound.fits item
  have nobody : channel.waiting = [] := sound.serves
  rcases channel.offerCases item with ⟨closed, refused⟩ | ⟨isOpen, full, waits⟩ |
    ⟨isOpen, room, accepted⟩
  · rw [refused]
    exact ⟨rfl, rfl, sound, by simp [Progress.put], fun _ => closed⟩
  · rw [waits] at fits ⊢
    refine ⟨rfl, rfl, ⟨fits, ?_, ⟨false, by simp [nobody]⟩, ?_⟩, by simp [Progress.put], nofun⟩
    · intro _ _ _ _
      simpa [free?, reserved] using full
    · intro unbounded
      have unbounded : channel.capacity = none := unbounded
      simp [free?, unbounded] at full
  · rw [accepted] at fits ⊢
    exact ⟨rfl, rfl, ⟨fits, tightOfNobody nobody, nobody, fun _ => nobody⟩,
      by simp [Progress.put], nofun⟩

/-- A sender that looks again hands its item on or goes on waiting. -/
theorem handedPoll {ticket : Nat} {item : A} (sound : channel.Sound (some (ticket, item))) :
    channel.Handed item (channel.poll ticket).1 (channel.poll ticket).2 := by
  have fits := fitsPoll sound.fits ticket
  rcases channel.pollCases ticket with ⟨closed, refused⟩ | ⟨isOpen, waits⟩ |
    ⟨isOpen, waiter, member, sameTicket, granted, accepted⟩
  · rw [refused]
    exact ⟨capacityReserve _, isOpenReserve _, soundCancel sound,
      by simp [Progress.put, cancel, bufferReserve], fun _ => closed⟩
  · rw [waits]
    exact ⟨rfl, rfl, sound, by simp [Progress.put], nofun⟩
  · obtain ⟨hasSlot, one⟩ := sound.serves
    have own : waiter.item = item := by
      rw [one, List.mem_singleton] at member
      rw [member]
    have nobody : (channel.waiting.filter fun other => other.ticket ≠ ticket) = [] := by
      simp [one]
    rw [accepted, own] at fits ⊢
    rw [nobody] at fits ⊢
    exact ⟨rfl, rfl, ⟨fits, tightOfNobody rfl, rfl, fun _ => rfl⟩, by simp [Progress.put], nofun⟩

/-- A sender that goes on waiting at an open channel finds it full. -/
theorem fullOfWaits {ticket later : Nat} {item : A} (sound : channel.Sound (some (ticket, item)))
    (waits : (channel.poll ticket).1 = .waits later) : channel.free? = some 0 := by
  obtain ⟨hasSlot, one⟩ := sound.serves
  rcases channel.pollCases ticket with ⟨_, refused⟩ | ⟨isOpen, _⟩ | ⟨_, _, _, _, _, accepted⟩
  · simp [refused] at waits
  · refine sound.tight isOpen ⟨ticket, item, hasSlot⟩ (by simp [one]) ?_
    cases hasSlot with
    | false => rfl
    | true => simp [poll, isOpen, one] at waits
  · simp [accepted] at waits

end Channel

end NodeBridge.Feed
