import Mathlib.Data.List.Nodup
import NodeBridge.Proofs.Feed.Channel

/-
This file describes the line of those who wait for a slot.
Tickets rise along the line, and the slots that were given out are held by its front.
-/

namespace NodeBridge.Feed

/-- This is what a waiting sender brought along. -/
def Waiter.claim {A : Type} (waiter : Waiter A) : Nat × A := (waiter.ticket, waiter.item)

/-- Whoever has to wait joins the line without a slot. -/
def Progress.joins {A : Type} (item : A) : Progress → List (Waiter A)
  | waits ticket => [{ ticket, item }]
  | _ => []

namespace Channel

variable {A : Type} {channel : Channel A}

/-- Whoever stands before the holder of a slot holds one too. -/
def HoldersFirst (waiting : List (Waiter A)) : Prop :=
  waiting.Pairwise fun earlier later => later.hasSlot = true → earlier.hasSlot = true

/-- Tickets rise along the line. -/
def Rising (waiting : List (Waiter A)) : Prop :=
  waiting.Pairwise fun earlier later => earlier.ticket < later.ticket

/-- A line in order has slots only at its front, and somebody is without a slot only if no slot is
free. -/
structure Orderly (channel : Channel A) : Prop where
  fits : channel.Fits
  tight : channel.Tight
  bounded : channel.capacity = none → channel.waiting = []
  rising : Rising channel.waiting
  fresh : ∀ waiter ∈ channel.waiting, waiter.ticket < channel.nextTicket
  holdersFirst : HoldersFirst channel.waiting

/-- Giving out slots changes neither the tickets nor the items. -/
theorem claimsGrant (free : Nat) (waiting : List (Waiter A)) :
    (grant free waiting).map Waiter.claim = waiting.map Waiter.claim := by
  fun_induction grant free waiting with
  | case1 => rfl
  | case2 => rfl
  | case3 free waiter rest granted inductionHypothesis =>
      rw [List.map_cons, inductionHypothesis, List.map_cons]
  | case4 free waiter rest waits inductionHypothesis =>
      rw [List.map_cons, inductionHypothesis, List.map_cons]
      rfl

theorem claimsReserve (channel : Channel A) :
    channel.reserve.waiting.map Waiter.claim = channel.waiting.map Waiter.claim := by
  rw [reserve]
  split
  · rfl
  · exact claimsGrant _ _

/-- Whoever gives up leaves the others where they are. -/
theorem claimsCancel (channel : Channel A) (ticket : Nat) :
    (channel.cancel ticket).waiting.map Waiter.claim =
      (channel.waiting.filter fun waiter => waiter.ticket ≠ ticket).map Waiter.claim :=
  claimsReserve _

theorem ticketsOfClaims {waiting other : List (Waiter A)}
    (same : other.map Waiter.claim = waiting.map Waiter.claim) :
    other.map Waiter.ticket = waiting.map Waiter.ticket := by
  have first (line : List (Waiter A)) :
      line.map Waiter.ticket = (line.map Waiter.claim).map Prod.fst := by
    rw [List.map_map]
    rfl
  rw [first, same, ← first]

theorem ticketsWithout (waiting : List (Waiter A)) (ticket : Nat) :
    (waiting.filter fun waiter => waiter.ticket ≠ ticket).map Waiter.ticket =
      (waiting.map Waiter.ticket).filter (· ≠ ticket) := by
  rw [List.filter_map]
  rfl

theorem nextTicketReserve (channel : Channel A) :
    channel.reserve.nextTicket = channel.nextTicket := by
  rw [reserve]
  split <;> rfl

/-- Slots are given out from the front. -/
theorem holdersFirstGrant {free : Nat} {waiting : List (Waiter A)}
    (holdersFirst : HoldersFirst waiting) : HoldersFirst (grant free waiting) := by
  fun_induction grant free waiting with
  | case1 => exact holdersFirst
  | case2 => exact holdersFirst
  | case3 free waiter rest granted inductionHypothesis =>
      exact .cons (fun _ _ _ => granted) (inductionHypothesis holdersFirst.of_cons)
  | case4 free waiter rest waits inductionHypothesis =>
      exact .cons (fun _ _ _ => rfl) (inductionHypothesis holdersFirst.of_cons)

theorem risingOfClaims {waiting other : List (Waiter A)}
    (same : other.map Waiter.claim = waiting.map Waiter.claim) (rising : Rising waiting) :
    Rising other := by
  have mapped (line : List (Waiter A)) :
      Rising line ↔ (line.map Waiter.claim).Pairwise fun earlier later => earlier.1 < later.1 := by
    rw [List.pairwise_map]
    rfl
  rw [mapped] at rising ⊢
  rwa [same]

/-- Whoever stands in the line afterwards was there before. -/
theorem claimantOfClaims {waiting other : List (Waiter A)}
    (same : other.map Waiter.claim = waiting.map Waiter.claim) {waiter : Waiter A}
    (member : waiter ∈ other) : ∃ before ∈ waiting, before.claim = waiter.claim := by
  have claimed : waiter.claim ∈ other.map Waiter.claim := List.mem_map_of_mem member
  rw [same] at claimed
  exact List.mem_map.mp claimed

/-- The line is in order again after the free slots were given out. -/
theorem orderlyReserve (fits : channel.reserve.Fits)
    (bounded : channel.capacity = none → channel.waiting = []) (rising : Rising channel.waiting)
    (fresh : ∀ waiter ∈ channel.waiting, waiter.ticket < channel.nextTicket)
    (holdersFirst : HoldersFirst channel.waiting) : channel.reserve.Orderly where
  fits := fits
  tight := tightReserve bounded
  bounded := by
    intro unbounded
    rw [capacityReserve] at unbounded
    have claims := channel.claimsReserve
    rw [bounded unbounded] at claims
    exact List.map_eq_nil_iff.mp claims
  rising := risingOfClaims channel.claimsReserve rising
  fresh := by
    intro waiter member
    obtain ⟨before, wasThere, same⟩ := claimantOfClaims channel.claimsReserve member
    rw [nextTicketReserve, ← (Prod.mk.inj same).1]
    exact fresh before wasThere
  holdersFirst := by
    rw [reserve]
    split
    · exact holdersFirst
    · exact holdersFirstGrant holdersFirst

theorem orderlyOfCapacity (requested : Nat) : (ofCapacity requested : Channel A).Orderly where
  fits := fitsOfCapacity requested
  tight := tightOfNobody rfl
  bounded _ := rfl
  rising := .nil
  fresh := nofun
  holdersFirst := .nil

theorem claimsTake {item : A} {next : Channel A} (taken : channel.take? = some (item, next)) :
    next.waiting.map Waiter.claim = channel.waiting.map Waiter.claim := by
  simp only [take?, Option.map_eq_some_iff, Prod.mk.injEq, Prod.exists] at taken
  obtain ⟨first, rest, _, rfl, rfl⟩ := taken
  exact claimsReserve _

theorem orderlyTake {item : A} {next : Channel A} (orderly : channel.Orderly)
    (taken : channel.take? = some (item, next)) : next.Orderly := by
  have fits := fitsTake orderly.fits taken
  simp only [take?, Option.map_eq_some_iff, Prod.mk.injEq, Prod.exists] at taken
  obtain ⟨first, rest, _, rfl, rfl⟩ := taken
  exact orderlyReserve fits orderly.bounded orderly.rising orderly.fresh orderly.holdersFirst

theorem orderlyClose (orderly : channel.Orderly) : channel.close.Orderly where
  fits := fitsClose orderly.fits
  tight isOpen := absurd isOpen nofun
  bounded := orderly.bounded
  rising := orderly.rising
  fresh := orderly.fresh
  holdersFirst := orderly.holdersFirst

theorem orderlyCancel (orderly : channel.Orderly) (ticket : Nat) :
    (channel.cancel ticket).Orderly := by
  refine orderlyReserve (fitsCancel orderly.fits ticket) ?_ (orderly.rising.filter _) ?_
    (orderly.holdersFirst.filter _)
  · intro unbounded
    change channel.waiting.filter _ = []
    rw [orderly.bounded unbounded]
    rfl
  · intro waiter member
    exact orderly.fresh waiter (List.mem_of_mem_filter member)

/-- An offer puts the item into the buffer, or its sender joins the line, or the channel is
closed. -/
structure Offered (before : Channel A) (item : A) (progress : Progress) (after : Channel A) :
    Prop where
  orderly : after.Orderly
  capacity : after.capacity = before.capacity
  isOpen : after.isOpen = before.isOpen
  buffer : after.buffer.toList = before.buffer.toList ++ progress.put item
  waiting : after.waiting = before.waiting ++ progress.joins item
  ticket : ∀ ticket, progress = .waits ticket → ticket = before.nextTicket
  accepted : progress = .accepted → before.isOpen = true ∧ before.free? ≠ some 0

/-- A new sender stands at the end of the line. -/
theorem orderlyOffer (orderly : channel.Orderly) (item : A) : (channel.offer item).2.Orderly := by
  have fits := fitsOffer orderly.fits item
  rcases channel.offerCases item with ⟨_, refused⟩ | ⟨isOpen, full, waits⟩ |
    ⟨isOpen, room, accepted⟩
  · rw [refused]
    exact orderly
  · rw [waits] at fits ⊢
    constructor
    · exact fits
    · intro _ _ _ _
      simpa [free?, reserved] using full
    · intro unbounded
      have unbounded : channel.capacity = none := unbounded
      simp [free?, unbounded] at full
    · refine List.pairwise_append.mpr ⟨orderly.rising, List.pairwise_singleton _ _, ?_⟩
      intro waiter member newcomer isNew
      rw [List.mem_singleton.mp isNew]
      exact orderly.fresh waiter member
    · intro waiter member
      rcases List.mem_append.mp member with old | isNew
      · exact Nat.lt_succ_of_lt (orderly.fresh waiter old)
      · rw [List.mem_singleton.mp isNew]
        exact Nat.lt_succ_self _
    · refine List.pairwise_append.mpr ⟨orderly.holdersFirst, List.pairwise_singleton _ _, ?_⟩
      intro waiter _ newcomer isNew holds
      rw [List.mem_singleton.mp isNew] at holds
      contradiction
  · rw [accepted] at fits ⊢
    refine ⟨fits, ?_, orderly.bounded, orderly.rising, orderly.fresh, orderly.holdersFirst⟩
    intro _ waiter member left
    exact absurd (orderly.tight isOpen waiter member left) room

theorem offered (orderly : channel.Orderly) (item : A) :
    channel.Offered item (channel.offer item).1 (channel.offer item).2 := by
  have after := orderlyOffer orderly item
  rcases channel.offerCases item with ⟨_, refused⟩ | ⟨_, _, waits⟩ | ⟨isOpen, room, accepted⟩
  · rw [refused]
    exact ⟨orderly, rfl, rfl, (List.append_nil _).symm, (List.append_nil _).symm, nofun, nofun⟩
  · rw [waits] at after ⊢
    refine ⟨after, rfl, rfl, (List.append_nil _).symm, rfl, ?_, nofun⟩
    intro ticket same
    exact (Progress.waits.inj same).symm
  · rw [accepted] at after ⊢
    exact ⟨after, rfl, rfl, Queue.toListPush _ _, (List.append_nil _).symm, nofun,
      fun _ => ⟨isOpen, room⟩⟩

/-- A ticket is found once, and whoever has it can be taken out of the line. -/
theorem lineWithout {waiting : List (Waiter A)} {waiter : Waiter A} (rising : Rising waiting)
    (member : waiter ∈ waiting) :
    ∃ before after, waiting = before ++ waiter :: after ∧
      waiting.filter (fun other => other.ticket ≠ waiter.ticket) = before ++ after := by
  obtain ⟨before, after, rfl⟩ := List.append_of_mem member
  refine ⟨before, after, rfl, ?_⟩
  obtain ⟨_, risesAfter, risesAcross⟩ := List.pairwise_append.mp rising
  have beforeStays : before.filter (fun other => other.ticket ≠ waiter.ticket) = before := by
    refine List.filter_eq_self.mpr fun other isBefore => ?_
    have less := risesAcross other isBefore waiter List.mem_cons_self
    simp only [ne_eq, decide_not, Bool.not_eq_true', decide_eq_false_iff_not]
    omega
  have afterStays : after.filter (fun other => other.ticket ≠ waiter.ticket) = after := by
    refine List.filter_eq_self.mpr fun other isAfter => ?_
    have less := List.rel_of_pairwise_cons risesAfter isAfter
    simp only [ne_eq, decide_not, Bool.not_eq_true', decide_eq_false_iff_not]
    omega
  rw [List.filter_append, List.filter_cons_of_neg (by simp), beforeStays, afterStays]

/-- A sender leaves the line, and its item is in the buffer. -/
def putDown (waiter : Waiter A) (channel : Channel A) : Channel A :=
  { channel with
    waiting := channel.waiting.filter fun other => other.ticket ≠ waiter.ticket
    buffer := channel.buffer.push waiter.item }

/-- An item that is put down takes the place of the slot of its sender. -/
theorem orderlyPoll (orderly : channel.Orderly) (ticket : Nat) :
    (channel.poll ticket).2.Orderly := by
  have fits := fitsPoll orderly.fits ticket
  rcases channel.pollCases ticket with ⟨_, refused⟩ | ⟨_, waits⟩ |
    ⟨isOpen, waiter, member, rfl, granted, accepted⟩
  · rw [refused]
    exact orderlyCancel orderly ticket
  · rw [waits]
    exact orderly
  · rw [accepted] at fits ⊢
    obtain ⟨before, after, line, without⟩ := lineWithout orderly.rising member
    refine ⟨fits, ?_, ?_, orderly.rising.filter _, ?_, orderly.holdersFirst.filter _⟩
    · intro _ other stays left
      have full := orderly.tight isOpen other (List.mem_of_mem_filter stays) left
      rw [← full]
      have slots : (channel.waiting.filter Waiter.hasSlot).length =
          ((before ++ after).filter Waiter.hasSlot).length + 1 := by
        rw [line]
        simp [List.filter_append, granted]
        omega
      change channel.capacity.map _ = channel.capacity.map _
      congr 1
      funext capacity
      simp only [reserved, slots, without, Queue.push]
      omega
    · intro unbounded
      change channel.waiting.filter _ = []
      rw [orderly.bounded unbounded]
      rfl
    · intro other stays
      exact orderly.fresh other (List.mem_of_mem_filter stays)

end Channel

end NodeBridge.Feed
