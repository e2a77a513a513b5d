import NodeBridge.Feed.Dispatch
import NodeBridge.Proofs.Feed.Line

/-
This file follows everything that can happen between a dispatcher and its feed.
Calls are started, looked at and given up in any order, items are received, and either half may be
dropped. What was accepted is what was received, followed by what is in the buffer.
-/

namespace NodeBridge.Feed

/-- Only a task that waits has a ticket. -/
def Task.ticket? : Task → Option Nat
  | .waiting ticket => some ticket
  | .ended _ => none
  | .stopped => none

/-- These tickets are held by tasks, in the order in which the tasks were started. -/
def tickets (tasks : List Task) : List Nat := tasks.filterMap Task.ticket?

/-- A look has an outcome for the task. -/
def Progress.task : Progress → Task
  | .accepted => .ended (.ok ())
  | .closed => .ended (.error .closed)
  | .waits ticket => .waiting ticket

namespace Dispatch

variable {A : Type}

/-- A single waiting task looks whether it can go on. -/
def look (call : Nat) (dispatch : Dispatch A) : Dispatch A :=
  match dispatch.tasks[call]? with
  | some (.waiting ticket) =>
      { dispatch with
        channel := (dispatch.channel.poll ticket).2
        tasks := dispatch.tasks.set call (dispatch.channel.poll ticket).1.task }
  | _ => dispatch

/-- The call came back with success. -/
def hasReturned (dispatch : Dispatch A) (call : Nat) : Bool :=
  match dispatch.tasks[call]? with
  | some (.ended (.ok ())) => true
  | _ => false

end Dispatch

/-- What happens is watched from outside. A call is known by its number, and its item is noted when
it starts. A call that returns success is noted with its item, and so is an item that is
received. -/
structure Traffic (A : Type) where
  dispatch : Dispatch A
  offered : List A := []
  accepted : List (Nat × A) := []
  received : List A := []

/-- A call starts, looks or is given up, an item is received if there is one, and either half is
dropped. -/
inductive Action (A : Type) where
  | start (item : A)
  | look (call : Nat)
  | stop (call : Nat)
  | receive
  | dropFeed
  | dropDispatcher

namespace Traffic

variable {A : Type}

def ofCapacity (requested : Nat) : Traffic A := { dispatch := .ofCapacity requested }

/-- Nobody starts a call without the dispatcher or receives without the feed. -/
def Allows (traffic : Traffic A) : Action A → Prop
  | .start _ => traffic.dispatch.dispatcherHeld = true
  | .look _ => True
  | .stop _ => True
  | .receive => traffic.dispatch.feedHeld = true
  | .dropFeed => traffic.dispatch.feedHeld = true
  | .dropDispatcher => traffic.dispatch.dispatcherHeld = true

/-- A call that has returned success just now is noted. -/
def notes (call : Nat) (next : Dispatch A) (traffic : Traffic A) : List (Nat × A) :=
  if next.hasReturned call && !traffic.dispatch.hasReturned call then
    (traffic.offered[call]?.map fun item => (call, item)).toList
  else []

def follow (call : Nat) (next : Dispatch A) (traffic : Traffic A) : Traffic A :=
  { traffic with
    dispatch := next
    accepted := traffic.accepted ++ traffic.notes call next }

def perform (traffic : Traffic A) : Action A → Traffic A
  | .start item =>
      { traffic with offered := traffic.offered ++ [item] }.follow traffic.dispatch.tasks.length
        (traffic.dispatch.spawn item)
  | .look call => traffic.follow call (traffic.dispatch.look call)
  | .stop call => { traffic with dispatch := traffic.dispatch.stop call }
  | .receive =>
      match traffic.dispatch.receive with
      | (.item item, dispatch) => { traffic with dispatch, received := traffic.received ++ [item] }
      | (_, dispatch) => { traffic with dispatch }
  | .dropFeed => { traffic with dispatch := traffic.dispatch.dropFeed }
  | .dropDispatcher => { traffic with dispatch := traffic.dispatch.dropDispatcher }

/-- These states are reached, whatever happens in whatever order. -/
inductive Reachable (requested : Nat) : Traffic A → Prop where
  | start : Reachable requested (ofCapacity requested)
  | step {traffic : Traffic A} {action : Action A} (before : Reachable requested traffic)
      (allowed : traffic.Allows action) : Reachable requested (traffic.perform action)

/-- The tasks are those who stand in line, and the items are accounted for. -/
structure Kept (requested : Nat) (traffic : Traffic A) : Prop where
  orderly : traffic.dispatch.channel.Orderly
  capacity : traffic.dispatch.channel.capacity =
    if requested = 0 then none else some (clamp requested)
  isOpen : traffic.dispatch.channel.isOpen = traffic.dispatch.feedHeld
  line : tickets traffic.dispatch.tasks = traffic.dispatch.channel.waiting.map Waiter.ticket
  counted : traffic.offered.length = traffic.dispatch.tasks.length
  owned : ∀ call ticket : Nat, traffic.dispatch.tasks[call]? = some (.waiting ticket) →
    ∀ waiter ∈ traffic.dispatch.channel.waiting, waiter.ticket = ticket →
      traffic.offered[call]? = some waiter.item
  told : ∀ (call : Nat) (item : A), (call, item) ∈ traffic.accepted ↔
    traffic.dispatch.tasks[call]? = some (.ended (.ok ())) ∧ traffic.offered[call]? = some item
  once : (traffic.accepted.map Prod.fst).Nodup
  conserved : traffic.dispatch.feedHeld = true →
    traffic.accepted.map Prod.snd = traffic.received ++ traffic.dispatch.channel.buffer.toList
  lost : traffic.dispatch.feedHeld = false → traffic.dispatch.channel.buffer.toList = [] ∧
    traffic.received <+: traffic.accepted.map Prod.snd

variable {requested : Nat} {traffic : Traffic A} {dispatch : Dispatch A}

theorem hasReturnedIff {call : Nat} :
    dispatch.hasReturned call = true ↔ dispatch.tasks[call]? = some (.ended (.ok ())) := by
  rw [Dispatch.hasReturned]
  split
  case h_1 returned => exact ⟨fun _ => returned, fun _ => rfl⟩
  case h_2 other => exact ⟨nofun, fun returned => absurd returned (other ·)⟩

/-- The last holder of a ticket leaves the others in their order. -/
theorem ticketsSet {tasks : List Task} {call ticket : Nat} {done : Task}
    (waits : tasks[call]? = some (.waiting ticket)) (final : done.ticket? = none)
    (distinct : (tickets tasks).Nodup) :
    tickets (tasks.set call done) = (tickets tasks).filter (· ≠ ticket) := by
  induction tasks generalizing call with
  | nil => contradiction
  | cons task rest inductionHypothesis =>
      cases call with
      | zero =>
          obtain rfl := Option.some.inj waits
          have others : tickets (.waiting ticket :: rest) = ticket :: tickets rest := rfl
          rw [others] at distinct ⊢
          have absent := (List.nodup_cons.mp distinct).1
          rw [List.set_cons_zero, tickets, List.filterMap_cons_none final,
            List.filter_cons_of_neg (by simp), ← tickets]
          refine (List.filter_eq_self.mpr fun other member => ?_).symm
          simp only [decide_not, Bool.not_eq_true', decide_eq_false_iff_not]
          rintro rfl
          exact absent member
      | succ call =>
          have waits : rest[call]? = some (.waiting ticket) := waits
          have held : ticket ∈ tickets rest :=
            List.mem_filterMap.mpr ⟨_, List.mem_of_getElem? waits, rfl⟩
          rw [List.set_cons_succ]
          cases own : task.ticket? with
          | none =>
              rw [tickets, tickets, List.filterMap_cons_none own, List.filterMap_cons_none own]
              rw [tickets, List.filterMap_cons_none own] at distinct
              exact inductionHypothesis waits distinct
          | some first =>
              rw [tickets, tickets, List.filterMap_cons_some own, List.filterMap_cons_some own]
              rw [tickets, List.filterMap_cons_some own, ← tickets] at distinct
              obtain ⟨absent, distinct⟩ := List.nodup_cons.mp distinct
              have different : first ≠ ticket := fun same => absent (same ▸ held)
              rw [List.filter_cons_of_pos (by simpa using different)]
              exact congrArg (first :: ·) (inductionHypothesis waits distinct)

theorem keptOfCapacity (requested : Nat) : (ofCapacity requested : Traffic A).Kept requested where
  orderly := Channel.orderlyOfCapacity requested
  capacity := rfl
  isOpen := rfl
  line := rfl
  counted := rfl
  owned _ _ absent := absurd absent nofun
  told _ _ := ⟨fun absent => absurd absent List.not_mem_nil, fun absent => absurd absent.1 nofun⟩
  once := List.nodup_nil
  conserved _ := rfl
  lost := nofun

/-- No two tasks have the same ticket. -/
theorem Kept.distinct (kept : traffic.Kept requested) : (tickets traffic.dispatch.tasks).Nodup := by
  rw [kept.line]
  exact (List.pairwise_map.mpr kept.orderly.rising).imp Nat.ne_of_lt

/-- Only the task that is set can have stopped waiting. -/
theorem waitsBefore {tasks : List Task} {call other ticket : Nat} {done : Task}
    (final : done.ticket? = none) (waits : (tasks.set call done)[other]? = some (.waiting ticket)) :
    tasks[other]? = some (.waiting ticket) := by
  rw [List.getElem?_set] at waits
  split at waits
  · split at waits
    · obtain rfl := Option.some.inj waits
      contradiction
    · contradiction
  · exact waits

/-- A task that ends without success does not change which calls succeeded. -/
theorem returnedSet {tasks : List Task} {call other ticket : Nat} {done : Task}
    (waits : tasks[call]? = some (.waiting ticket)) (failed : done ≠ .ended (.ok ())) :
    (tasks.set call done)[other]? = some (.ended (.ok ())) ↔
      tasks[other]? = some (.ended (.ok ())) := by
  rw [List.getElem?_set]
  split
  case isTrue same =>
      subst same
      rw [waits]
      constructor
      · intro returned
        split at returned
        · exact absurd (Option.some.inj returned) failed
        · contradiction
      · nofun
  case isFalse => exact Iff.rfl

/-- An owner is still an owner if others leave the line. -/
theorem Kept.ownedBy (kept : traffic.Kept requested) {tasks : List Task} {call : Nat} {done : Task}
    (same : tasks = traffic.dispatch.tasks.set call done) (final : done.ticket? = none)
    {waiting : List (Waiter A)} {ticket : Nat}
    (claims : waiting.map Waiter.claim = (traffic.dispatch.channel.waiting.filter
      fun waiter => waiter.ticket ≠ ticket).map Waiter.claim) :
    ∀ other otherTicket : Nat, tasks[other]? = some (.waiting otherTicket) →
      ∀ waiter ∈ waiting, waiter.ticket = otherTicket →
        traffic.offered[other]? = some waiter.item := by
  rintro other otherTicket waits waiter member rfl
  obtain ⟨before, wasThere, claim⟩ := Channel.claimantOfClaims claims member
  obtain ⟨sameTicket, sameItem⟩ := Prod.mk.inj claim
  rw [same] at waits
  rw [← sameItem]
  exact kept.owned other waiter.ticket (waitsBefore final waits) before
    (List.mem_of_mem_filter wasThere) sameTicket

/-- A task that ends without success takes its ticket out of the line. -/
theorem keptCancel (kept : traffic.Kept requested) {call ticket : Nat} {done : Task}
    (waits : traffic.dispatch.tasks[call]? = some (.waiting ticket)) (final : done.ticket? = none)
    (failed : done ≠ .ended (.ok ())) :
    Kept requested { traffic with dispatch := { traffic.dispatch with
      channel := traffic.dispatch.channel.cancel ticket
      tasks := traffic.dispatch.tasks.set call done } } where
  orderly := Channel.orderlyCancel kept.orderly ticket
  capacity := (Channel.capacityReserve _).trans kept.capacity
  isOpen := (Channel.isOpenReserve _).trans kept.isOpen
  line := by
    rw [ticketsSet waits final kept.distinct, kept.line, ← Channel.ticketsWithout]
    exact (Channel.ticketsOfClaims (Channel.claimsCancel _ ticket)).symm
  counted := kept.counted.trans List.length_set.symm
  owned := kept.ownedBy rfl final (Channel.claimsCancel _ ticket)
  told other item := by
    rw [returnedSet waits failed]
    exact kept.told other item
  once := kept.once
  conserved isHeld := by
    rw [Channel.cancel, Channel.bufferReserve]
    exact kept.conserved isHeld
  lost gone := by
    rw [Channel.cancel, Channel.bufferReserve]
    exact kept.lost gone

/-- A task that succeeds turns its slot into a place in the buffer. -/
theorem keptAccept (kept : traffic.Kept requested) {call : Nat} {waiter : Waiter A}
    (isOpen : traffic.dispatch.channel.isOpen = true)
    (member : waiter ∈ traffic.dispatch.channel.waiting)
    (waits : traffic.dispatch.tasks[call]? = some (.waiting waiter.ticket))
    (accepted : traffic.dispatch.channel.poll waiter.ticket =
      (.accepted, traffic.dispatch.channel.putDown waiter)) :
    Kept requested { traffic with
      dispatch := { traffic.dispatch with
        channel := traffic.dispatch.channel.putDown waiter
        tasks := traffic.dispatch.tasks.set call (.ended (.ok ())) }
      accepted := traffic.accepted ++ [(call, waiter.item)] } where
  orderly := by
    have orderly := Channel.orderlyPoll kept.orderly waiter.ticket
    rwa [accepted] at orderly
  capacity := kept.capacity
  isOpen := kept.isOpen
  line := by
    rw [ticketsSet waits rfl kept.distinct, kept.line]
    exact (Channel.ticketsWithout _ _).symm
  counted := kept.counted.trans List.length_set.symm
  owned := kept.ownedBy rfl rfl rfl
  told other item := by
    have inside : call < traffic.dispatch.tasks.length := (List.getElem?_eq_some_iff.mp waits).1
    have own := kept.owned call waiter.ticket waits waiter member rfl
    rw [List.mem_append, List.mem_singleton, kept.told, List.getElem?_set]
    split
    case isTrue same =>
        subst same
        rw [waits]
        constructor
        · rintro (⟨impossible, _⟩ | same)
          · exact absurd (Option.some.inj impossible) nofun
          · exact ⟨rfl, (Prod.mk.inj same).2 ▸ own⟩
        · rintro ⟨_, found⟩
          exact .inr (Prod.ext rfl (Option.some.inj (found.symm.trans own)))
    case isFalse different =>
        constructor
        · rintro (before | same)
          · exact before
          · exact absurd (Prod.mk.inj same).1.symm different
        · exact .inl
  once := by
    rw [List.map_append, List.nodup_append]
    refine ⟨kept.once, List.nodup_singleton _, ?_⟩
    rintro other before now isNow rfl
    obtain ⟨⟨earlier, item⟩, isAccepted, rfl⟩ := List.mem_map.mp before
    have returned := ((kept.told earlier item).mp isAccepted).1
    obtain rfl : earlier = call := List.mem_singleton.mp isNow
    rw [waits] at returned
    exact absurd (Option.some.inj returned) nofun
  conserved isHeld := by
    rw [List.map_append, kept.conserved isHeld, Channel.putDown, Queue.toListPush,
      List.append_assoc]
    rfl
  lost gone := by
    rw [kept.isOpen, gone] at isOpen
    contradiction

/-- A look leaves everything as it is, fails at a closed channel or succeeds with a slot. -/
theorem lookCases (dispatch : Dispatch A) (call : Nat) :
    dispatch.look call = dispatch ∨
    (∃ ticket, dispatch.tasks[call]? = some (.waiting ticket) ∧
      dispatch.channel.isOpen = false ∧
      dispatch.look call = { dispatch with
        channel := dispatch.channel.cancel ticket
        tasks := dispatch.tasks.set call (.ended (.error .closed)) }) ∨
    ∃ waiter ∈ dispatch.channel.waiting,
      dispatch.tasks[call]? = some (.waiting waiter.ticket) ∧
      dispatch.channel.isOpen = true ∧ waiter.hasSlot = true ∧
      dispatch.channel.poll waiter.ticket = (.accepted, dispatch.channel.putDown waiter) ∧
      dispatch.look call = { dispatch with
        channel := dispatch.channel.putDown waiter
        tasks := dispatch.tasks.set call (.ended (.ok ())) } := by
  rw [Dispatch.look]
  split
  case h_2 => exact .inl rfl
  case h_1 ticket waits =>
      rcases dispatch.channel.pollCases ticket with ⟨closed, refused⟩ | ⟨_, goesOn⟩ |
        ⟨isOpen, waiter, member, rfl, granted, accepted⟩
      · exact .inr (.inl ⟨ticket, waits, closed, by rw [refused]; rfl⟩)
      · left
        obtain ⟨inside, here⟩ := List.getElem?_eq_some_iff.mp waits
        have unchanged : dispatch.tasks.set call (.waiting ticket) = dispatch.tasks := by
          rw [← here]
          exact List.set_getElem_self inside
        rw [goesOn]
        change { dispatch with tasks := dispatch.tasks.set call (.waiting ticket) } = dispatch
        rw [unchanged]
      · exact .inr (.inr ⟨waiter, member, waits, isOpen, granted, accepted, by rw [accepted]; rfl⟩)

theorem notesNothing {call : Nat} {next : Dispatch A}
    (same : next.hasReturned call = true → traffic.dispatch.hasReturned call = true) :
    traffic.notes call next = [] := by
  rw [notes]
  split
  case isTrue newly =>
      rw [Bool.and_eq_true, Bool.not_eq_true'] at newly
      rw [same newly.1] at newly
      exact absurd newly.2 nofun
  case isFalse => rfl

theorem notesItem {call : Nat} {next : Dispatch A} {item : A}
    (before : traffic.dispatch.hasReturned call = false) (after : next.hasReturned call = true)
    (found : traffic.offered[call]? = some item) : traffic.notes call next = [(call, item)] := by
  rw [notes, before, after, found]
  rfl

/-- A look changes nothing, fails at a closed channel, or is noted because it succeeds. -/
theorem performLook (kept : traffic.Kept requested) (call : Nat) :
    traffic.perform (.look call) = traffic ∨
    (∃ ticket, traffic.dispatch.tasks[call]? = some (.waiting ticket) ∧
      traffic.dispatch.channel.isOpen = false ∧
      traffic.perform (.look call) = { traffic with dispatch := { traffic.dispatch with
        channel := traffic.dispatch.channel.cancel ticket
        tasks := traffic.dispatch.tasks.set call (.ended (.error .closed)) } }) ∨
    ∃ waiter ∈ traffic.dispatch.channel.waiting,
      traffic.dispatch.tasks[call]? = some (.waiting waiter.ticket) ∧
      traffic.dispatch.channel.isOpen = true ∧ waiter.hasSlot = true ∧
      traffic.dispatch.channel.poll waiter.ticket =
        (.accepted, traffic.dispatch.channel.putDown waiter) ∧
      traffic.perform (.look call) = { traffic with
        dispatch := { traffic.dispatch with
          channel := traffic.dispatch.channel.putDown waiter
          tasks := traffic.dispatch.tasks.set call (.ended (.ok ())) }
        accepted := traffic.accepted ++ [(call, waiter.item)] } := by
  rw [perform, follow]
  rcases lookCases traffic.dispatch call with same | ⟨ticket, waits, closed, fails⟩ |
    ⟨waiter, member, waits, isOpen, granted, accepted, succeeds⟩
  · rw [same, notesNothing id, List.append_nil]
    exact .inl rfl
  · have noted : traffic.notes call (traffic.dispatch.look call) = [] := by
      apply notesNothing
      rw [fails, hasReturnedIff, hasReturnedIff]
      exact (returnedSet waits (by nofun)).mp
    rw [noted, fails, List.append_nil]
    exact .inr (.inl ⟨ticket, waits, closed, rfl⟩)
  · have noted : traffic.notes call (traffic.dispatch.look call) = [(call, waiter.item)] := by
      apply notesItem
      · rw [Dispatch.hasReturned, waits]
      · rw [succeeds, hasReturnedIff]
        exact List.getElem?_set_self (List.getElem?_eq_some_iff.mp waits).1
      · exact kept.owned call waiter.ticket waits waiter member rfl
    rw [noted, succeeds]
    exact .inr (.inr ⟨waiter, member, waits, isOpen, granted, accepted, rfl⟩)

theorem keptLook (kept : traffic.Kept requested) (call : Nat) :
    (traffic.perform (.look call)).Kept requested := by
  rcases performLook kept call with same | ⟨ticket, waits, _, fails⟩ |
    ⟨waiter, member, waits, isOpen, _, accepted, succeeds⟩
  · rw [same]
    exact kept
  · rw [fails]
    exact keptCancel kept waits rfl (by nofun)
  · rw [succeeds]
    exact keptAccept kept isOpen member waits accepted

/-- Only a task that waits can be given up. -/
theorem performStop (traffic : Traffic A) (call : Nat) :
    traffic.perform (.stop call) = traffic ∨
    ∃ ticket, traffic.dispatch.tasks[call]? = some (.waiting ticket) ∧
      traffic.perform (.stop call) = { traffic with dispatch := { traffic.dispatch with
        channel := traffic.dispatch.channel.cancel ticket
        tasks := traffic.dispatch.tasks.set call .stopped } } := by
  rw [perform, Dispatch.stop]
  split
  case h_1 ticket waits => exact .inr ⟨ticket, waits, rfl⟩
  case h_2 => exact .inl rfl

theorem keptStop (kept : traffic.Kept requested) (call : Nat) :
    (traffic.perform (.stop call)).Kept requested := by
  rcases traffic.performStop call with same | ⟨ticket, waits, stopped⟩
  · rw [same]
    exact kept
  · rw [stopped]
    exact keptCancel kept waits rfl (by nofun)

theorem spawnOffer (dispatch : Dispatch A) (item : A) :
    dispatch.spawn item = { dispatch with
      channel := (dispatch.channel.offer item).2
      tasks := dispatch.tasks ++ [(dispatch.channel.offer item).1.task] } := by
  rw [Dispatch.spawn]
  cases dispatch.channel.offer item with
  | mk progress channel => cases progress <;> rfl

/-- A longer list has its old values and a last one. -/
theorem lastIff {B : Type} {list : List B} {last value : B} {index : Nat} :
    (list ++ [last])[index]? = some value ↔
      list[index]? = some value ∨ index = list.length ∧ last = value := by
  rw [List.getElem?_append]
  split
  case isTrue inside =>
      constructor
      · exact .inl
      · rintro (found | ⟨rfl, _⟩)
        · exact found
        · exact absurd inside (Nat.lt_irrefl _)
  case isFalse outside =>
      rw [List.getElem?_eq_none (Nat.le_of_not_lt outside), List.getElem?_singleton]
      split
      · constructor
        · intro same
          exact .inr ⟨by omega, Option.some.inj same⟩
        · rintro (impossible | ⟨_, rfl⟩)
          · contradiction
          · rfl
      · constructor
        · nofun
        · rintro (impossible | ⟨rfl, _⟩)
          · contradiction
          · omega

/-- A call that is accepted at once is noted at once. -/
theorem notesStart (kept : traffic.Kept requested) (item : A) (progress : Progress)
    {channel : Channel A} :
    notes traffic.dispatch.tasks.length
        { traffic.dispatch with channel, tasks := traffic.dispatch.tasks ++ [progress.task] }
        { traffic with offered := traffic.offered ++ [item] } =
      (progress.put item).map fun item => (traffic.dispatch.tasks.length, item) := by
  have isNew : traffic.dispatch.tasks[traffic.dispatch.tasks.length]? = none :=
    List.getElem?_eq_none (Nat.le_refl _)
  have nothing (failed : progress.task ≠ .ended (.ok ())) :
      notes traffic.dispatch.tasks.length
        { traffic.dispatch with channel, tasks := traffic.dispatch.tasks ++ [progress.task] }
        { traffic with offered := traffic.offered ++ [item] } = [] := by
    apply notesNothing
    intro returned
    rcases lastIff.mp (hasReturnedIff.mp returned) with before | ⟨_, now⟩
    · exact hasReturnedIff.mpr before
    · exact absurd now failed
  cases progress with
  | accepted =>
      apply notesItem
      · rw [Dispatch.hasReturned, isNew]
      · exact hasReturnedIff.mpr (lastIff.mpr (.inr ⟨rfl, rfl⟩))
      · exact lastIff.mpr (.inr ⟨kept.counted.symm, rfl⟩)
  | closed => exact nothing (by nofun)
  | waits ticket => exact nothing (by nofun)

/-- A waiting task has a sender in the line. -/
theorem Kept.standsInLine (kept : traffic.Kept requested) {call ticket : Nat}
    (waits : traffic.dispatch.tasks[call]? = some (.waiting ticket)) :
    ∃ waiter ∈ traffic.dispatch.channel.waiting, waiter.ticket = ticket := by
  have held : ticket ∈ tickets traffic.dispatch.tasks :=
    List.mem_filterMap.mpr ⟨_, List.mem_of_getElem? waits, rfl⟩
  rw [kept.line] at held
  exact List.mem_map.mp held

/-- The numbers of the calls that succeeded are smaller than the number of the next call. -/
theorem Kept.earlier (kept : traffic.Kept requested) {call : Nat} {item : A}
    (accepted : (call, item) ∈ traffic.accepted) : call < traffic.dispatch.tasks.length :=
  (List.getElem?_eq_some_iff.mp ((kept.told call item).mp accepted).1).1

theorem joinsIff {item : A} {progress : Progress} {waiter : Waiter A} :
    waiter ∈ progress.joins item ↔
      progress = .waits waiter.ticket ∧ waiter = ⟨waiter.ticket, item, false⟩ := by
  cases progress with
  | waits ticket =>
      rw [Progress.joins, List.mem_singleton]
      constructor
      · rintro rfl
        exact ⟨rfl, rfl⟩
      · rintro ⟨same, isNew⟩
        rw [isNew, Progress.waits.inj same]
  | accepted => exact ⟨fun absent => absurd absent List.not_mem_nil, nofun⟩
  | closed => exact ⟨fun absent => absurd absent List.not_mem_nil, nofun⟩

theorem putIff {item other : A} {progress : Progress} :
    other ∈ progress.put item ↔ progress = .accepted ∧ other = item := by
  cases progress <;> simp [Progress.put]

theorem waitsOfTask {progress : Progress} {ticket : Nat} (waits : progress.task = .waiting ticket) :
    progress = .waits ticket := by
  cases progress with
  | waits other => exact congrArg Progress.waits (Task.waiting.inj waits)
  | accepted | closed => contradiction

theorem acceptedOfTask {progress : Progress} (returned : progress.task = .ended (.ok ())) :
    progress = .accepted := by
  cases progress with
  | accepted => rfl
  | closed => exact absurd (Task.ended.inj returned) nofun
  | waits other => contradiction

/-- A call that starts stands behind all others, and it is noted if it succeeds at once. -/
theorem performStart (kept : traffic.Kept requested) (item : A) :
    traffic.perform (.start item) = { traffic with
      dispatch := { traffic.dispatch with
        channel := (traffic.dispatch.channel.offer item).2
        tasks := traffic.dispatch.tasks ++ [(traffic.dispatch.channel.offer item).1.task] }
      offered := traffic.offered ++ [item]
      accepted := traffic.accepted ++ ((traffic.dispatch.channel.offer item).1.put item).map
        fun item => (traffic.dispatch.tasks.length, item) } := by
  rw [perform, follow, spawnOffer, notesStart kept]

theorem keptStart (kept : traffic.Kept requested) (item : A) :
    (traffic.perform (.start item)).Kept requested := by
  rw [performStart kept]
  have offered := Channel.offered kept.orderly item
  generalize (traffic.dispatch.channel.offer item).1 = progress at offered ⊢
  generalize (traffic.dispatch.channel.offer item).2 = channel at offered ⊢
  exact {
    orderly := offered.orderly
    capacity := offered.capacity.trans kept.capacity
    isOpen := offered.isOpen.trans kept.isOpen
    line := by
      rw [tickets, List.filterMap_append, ← tickets, kept.line, offered.waiting, List.map_append]
      cases progress <;> rfl
    counted := by
      rw [List.length_append, List.length_append, kept.counted]
      rfl
    owned := by
      intro call ticket waits waiter member same
      rw [offered.waiting] at member
      rcases lastIff.mp waits with waited | ⟨rfl, joins⟩
      · rcases List.mem_append.mp member with old | isNew
        · exact lastIff.mpr (.inl (kept.owned call ticket waited waiter old same))
        · obtain ⟨joined, _⟩ := joinsIff.mp isNew
          obtain ⟨old, inLine, sameTicket⟩ := kept.standsInLine waited
          have less := kept.orderly.fresh old inLine
          rw [sameTicket, ← same, offered.ticket _ joined] at less
          exact absurd less (Nat.lt_irrefl _)
      · rcases List.mem_append.mp member with old | isNew
        · have less := kept.orderly.fresh waiter old
          rw [same, offered.ticket _ (waitsOfTask joins)] at less
          exact absurd less (Nat.lt_irrefl _)
        · rw [(joinsIff.mp isNew).2]
          exact lastIff.mpr (.inr ⟨kept.counted.symm, rfl⟩)
    told := by
      intro call other
      rw [List.mem_append, kept.told, lastIff, lastIff, List.mem_map]
      constructor
      · rintro (⟨returned, found⟩ | ⟨_, put, same⟩)
        · exact ⟨.inl returned, .inl found⟩
        · obtain ⟨rfl, rfl⟩ := Prod.mk.inj same
          obtain ⟨rfl, rfl⟩ := putIff.mp put
          exact ⟨.inr ⟨rfl, rfl⟩, .inr ⟨kept.counted.symm, rfl⟩⟩
      · rintro ⟨returned | ⟨rfl, now⟩, found | ⟨isLast, rfl⟩⟩
        · exact .inl ⟨returned, found⟩
        · have inside := (List.getElem?_eq_some_iff.mp returned).1
          exact absurd inside (by rw [isLast, kept.counted]; exact Nat.lt_irrefl _)
        · have inside := (List.getElem?_eq_some_iff.mp found).1
          exact absurd inside (by rw [kept.counted]; exact Nat.lt_irrefl _)
        · exact .inr ⟨item, putIff.mpr ⟨acceptedOfTask now, rfl⟩, rfl⟩
    once := by
      rw [List.map_append, List.nodup_append]
      refine ⟨kept.once, by cases progress <;> simp [Progress.put], ?_⟩
      rintro call before now isNow rfl
      obtain ⟨⟨earlier, old⟩, isAccepted, rfl⟩ := List.mem_map.mp before
      obtain ⟨pair, member, same⟩ := List.mem_map.mp isNow
      obtain ⟨_, _, rfl⟩ := List.mem_map.mp member
      have same : traffic.dispatch.tasks.length = earlier := same
      exact absurd (kept.earlier isAccepted) (by omega)
    conserved := by
      intro isHeld
      rw [List.map_append, kept.conserved isHeld, offered.buffer, List.append_assoc, List.map_map]
      congr 2
      exact List.map_id _
    lost := by
      intro gone
      obtain ⟨empty, received⟩ := kept.lost gone
      have nothing : progress.put item = [] := by
        cases progress with
        | accepted =>
            have isOpen := kept.isOpen.symm.trans (offered.accepted rfl).1
            rw [gone] at isOpen
            contradiction
        | closed | waits => rfl
      rw [offered.buffer, nothing, empty]
      exact ⟨rfl, by rwa [List.map_nil, List.append_nil]⟩ }

/-- The oldest item is received, if there is one. -/
theorem performReceive (traffic : Traffic A) :
    traffic.perform .receive = traffic ∨
    ∃ item channel, traffic.dispatch.channel.take? = some (item, channel) ∧
      traffic.perform .receive = { traffic with
        dispatch := { traffic.dispatch with channel }
        received := traffic.received ++ [item] } := by
  rw [perform, Dispatch.receive]
  cases traffic.dispatch.channel.take? with
  | none => cases traffic.dispatch.mayForward <;> exact .inl rfl
  | some pair => exact .inr ⟨_, _, rfl, rfl⟩

theorem keptReceive (kept : traffic.Kept requested) (allowed : traffic.dispatch.feedHeld = true) :
    (traffic.perform .receive).Kept requested := by
  rcases traffic.performReceive with same | ⟨item, channel, taken, received⟩
  · rw [same]
    exact kept
  · rw [received]
    have claims := Channel.claimsTake taken
    exact {
      orderly := Channel.orderlyTake kept.orderly taken
      capacity := (Channel.capacityTake taken).trans kept.capacity
      isOpen := (Channel.isOpenTake taken).trans kept.isOpen
      line := kept.line.trans (Channel.ticketsOfClaims claims).symm
      counted := kept.counted
      owned := by
        intro call ticket waits waiter member same
        obtain ⟨before, wasThere, claim⟩ := Channel.claimantOfClaims claims member
        obtain ⟨sameTicket, sameItem⟩ := Prod.mk.inj claim
        rw [← sameItem]
        exact kept.owned call ticket waits before wasThere (sameTicket.trans same)
      told := kept.told
      once := kept.once
      conserved := by
        intro isHeld
        rw [kept.conserved isHeld, Channel.bufferTake taken, List.append_assoc]
        rfl
      lost := by
        intro gone
        rw [gone] at allowed
        contradiction }

theorem keptDropFeed (kept : traffic.Kept requested) :
    (traffic.perform .dropFeed).Kept requested where
  orderly := Channel.orderlyClose kept.orderly
  capacity := kept.capacity
  isOpen := rfl
  line := kept.line
  counted := kept.counted
  owned := kept.owned
  told := kept.told
  once := kept.once
  conserved := nofun
  lost _ := by
    refine ⟨rfl, ?_⟩
    cases isHeld : traffic.dispatch.feedHeld with
    | true =>
        change traffic.received <+: traffic.accepted.map Prod.snd
        rw [kept.conserved isHeld]
        exact List.prefix_append _ _
    | false => exact (kept.lost isHeld).2

theorem keptDropDispatcher (kept : traffic.Kept requested) :
    (traffic.perform .dropDispatcher).Kept requested where
  orderly := kept.orderly
  capacity := kept.capacity
  isOpen := kept.isOpen
  line := kept.line
  counted := kept.counted
  owned := kept.owned
  told := kept.told
  once := kept.once
  conserved := kept.conserved
  lost := kept.lost

/-- Whatever happens next, the tasks and the items stay accounted for. -/
theorem keptPerform (kept : traffic.Kept requested) {action : Action A}
    (allowed : traffic.Allows action) : (traffic.perform action).Kept requested := by
  cases action with
  | start item => exact keptStart kept item
  | look call => exact keptLook kept call
  | stop call => exact keptStop kept call
  | receive => exact keptReceive kept allowed
  | dropFeed => exact keptDropFeed kept
  | dropDispatcher => exact keptDropDispatcher kept

theorem kept (reachable : traffic.Reachable requested) : traffic.Kept requested := by
  induction reachable with
  | start => exact keptOfCapacity requested
  | step before allowed inductionHypothesis => exact keptPerform inductionHypothesis allowed

end Traffic

end NodeBridge.Feed
