import NodeBridge.Proofs.Shutdown.Audience

/-
This file shows that the signal is given once for all and reaches everybody who listens.
A listener is done with its next turn exactly if the signal was given before or nobody is left who
could give it, whenever it arrived and however often it has listened.
-/

namespace NodeBridge.Shutdown

namespace Listener

variable {board : Board} {listener : Listener}

/-- Whoever has slept has not seen a signal, and nobody sleeps while there is one on the board. -/
structure Attentive (board : Board) (listener : Listener) : Prop where
  unseen : listener.listening = some .asleep ∨ listener.listening = some .called →
    listener.seen = 0
  awake : listener.listening = some .asleep → board.given = false ∧ board.closed = false

theorem attentiveOfIdle (idle : listener.listening = none ∨ listener.listening = some .begun) :
    listener.Attentive board := by
  rcases idle with idle | idle
  · exact ⟨by simp [idle], by simp [idle]⟩
  · exact ⟨by simp [idle], by simp [idle]⟩

/-- After a call nobody sleeps, whatever there is on the board. -/
theorem Attentive.call (attentive : listener.Attentive board) (other : Board) :
    listener.call.Attentive other := by
  unfold Listener.call
  split
  case isTrue asleep => exact ⟨fun _ => attentive.unseen (.inl asleep), by simp⟩
  case isFalse awake => exact ⟨attentive.unseen, fun asleep => absurd asleep awake⟩

/-- Whoever falls asleep after a look has seen an open board without a signal. -/
theorem attentiveLook (counts : board.given = true ↔ board.version ≠ 0) :
    (look board).Attentive board := by
  cases given : board.given with
  | true => exact attentiveOfIdle (.inl (by simp [look, given]))
  | false =>
      cases closed : board.closed with
      | true => exact attentiveOfIdle (.inl (by simp [look, closed]))
      | false =>
          have first : board.version = 0 := by simpa [given] using counts
          exact ⟨fun _ => first, fun _ => ⟨given, closed⟩⟩

theorem Attentive.poll (attentive : listener.Attentive board)
    (counts : board.given = true ↔ board.version ≠ 0) :
    (listener.poll board).Attentive board := by
  unfold Listener.poll
  split
  case h_1 | h_3 => exact attentive
  case h_2 => exact attentiveLook counts
  case h_4 called =>
    split
    case isTrue newest =>
      have first : listener.seen = 0 := attentive.unseen (.inr called)
      have quiet : board.given = false := by
        rw [newest] at first
        simpa [first] using counts
      cases closed : board.closed with
      | true => exact attentiveOfIdle (.inl rfl)
      | false => exact ⟨fun _ => first, fun _ => ⟨quiet, closed⟩⟩
    case isFalse => exact attentiveLook counts

theorem lookDone : (look board).listening = none ↔ board.given = true ∨ board.closed = true := by
  cases given : board.given <;> simp [look, given]

/-- What a listener remembers never keeps it from hearing the signal. -/
theorem Attentive.pollDone (attentive : listener.Attentive board)
    (counts : board.given = true ↔ board.version ≠ 0) (listens : listener.listening ≠ none) :
    (listener.poll board).listening = none ↔ board.given = true ∨ board.closed = true := by
  unfold Listener.poll
  split
  case h_1 idle => exact absurd idle listens
  case h_2 => exact lookDone
  case h_3 asleep =>
    obtain ⟨quiet, opened⟩ := attentive.awake asleep
    simp [asleep, quiet, opened]
  case h_4 called =>
    split
    case isTrue newest =>
      have first : board.version = 0 := newest ▸ attentive.unseen (.inr called)
      have quiet : board.given = false := by simpa [first] using counts
      simp [quiet]
    case isFalse => exact lookDone

end Listener

namespace Audience

variable {audience : Audience}

/-- The board agrees with the coordinator, and all listeners are attentive to it. -/
structure Sound (audience : Audience) : Prop where
  given : audience.board.given = audience.coordinator.triggered
  counts : audience.board.given = true ↔ audience.board.version ≠ 0
  closed : audience.board.closed = audience.coordinator.isGone
  attentive : ∀ listener ∈ audience.listeners, listener.Attentive audience.board

theorem Sound.act (sound : audience.Sound) (now : Nat) (action : Action) :
    (audience.act now action).Sound := by
  have counts := sound.counts
  refine ⟨?_, ?_, ?_, ?_⟩
  · rw [Audience.act, Coordinator.triggeredPerform, ← sound.given]
    by_cases own : action = .trigger <;> simp [Board.after, own]
  · by_cases own : action = .trigger <;> simp [Audience.act, Board.after, own, counts]
  · by_cases own : action = .trigger <;> simp [Audience.act, Board.after, own]
  · intro listener member
    simp only [Audience.act] at member ⊢
    split at member
    case isTrue unchanged => exact unchanged.symm ▸ sound.attentive listener member
    case isFalse =>
      obtain ⟨before, there, rfl⟩ := List.mem_map.mp member
      exact (sound.attentive before there).call _

theorem Sound.change (sound : audience.Sound) {index : Nat} {how : Listener → Listener}
    (attentive : ∀ listener, listener.Attentive audience.board →
      (how listener).Attentive audience.board) : (audience.change index how).Sound := by
  refine ⟨sound.given, sound.counts, sound.closed, fun listener member => ?_⟩
  obtain ⟨place, found⟩ := List.mem_iff_getElem?.mp member
  simp only [Audience.change, List.getElem?_modify, Option.map_eq_map,
    Option.map_eq_some_iff] at found
  obtain ⟨before, there, rfl⟩ := found
  have kept := sound.attentive before (List.mem_of_getElem? there)
  split
  · exact attentive before kept
  · exact kept

theorem Sound.arrive (sound : audience.Sound) {newcomers : List Listener}
    (idle : ∀ listener ∈ newcomers, listener.listening = none) :
    Sound { audience with listeners := audience.listeners ++ newcomers } := by
  refine ⟨sound.given, sound.counts, sound.closed, fun listener member => ?_⟩
  rcases List.mem_append.mp member with before | new
  · exact sound.attentive listener before
  · exact Listener.attentiveOfIdle (.inl (idle listener new))

theorem Sound.perform (sound : audience.Sound) (deed : Deed) : (audience.perform deed).Sound := by
  cases deed with
  | act now action => exact sound.act now action
  | subscribe => exact sound.arrive (by simp)
  | clone index => exact sound.arrive (by simp)
  | listen index => exact sound.change fun _ _ => Listener.attentiveOfIdle (.inr rfl)
  | poll index => exact sound.change fun _ attentive => attentive.poll sound.counts
  | giveUp index => exact sound.change fun _ _ => Listener.attentiveOfIdle (.inl rfl)

/-- Only its own turn and its own will keep a listener from listening on. -/
theorem Listens.perform {index : Nat} (listens : audience.Listens index) {deed : Deed}
    (unpolled : deed ≠ .poll index) (patient : deed ≠ .giveUp index) :
    (audience.perform deed).Listens index := by
  obtain ⟨listener, found, listening⟩ := listens
  have inside := (List.getElem?_eq_some_iff.mp found).1
  have other {place : Nat} {how : Listener → Listener} (different : place ≠ index) :
      (audience.change place how).Listens index :=
    ⟨listener, (List.getElem?_modify_ne how _ different).trans found, listening⟩
  cases deed with
  | act now action =>
      simp only [Audience.perform, Audience.act, Listens]
      split
      · exact ⟨listener, found, listening⟩
      · refine ⟨listener.call, by simp [found], ?_⟩
        unfold Listener.call
        split
        · simp
        · exact listening
  | subscribe | clone => exact ⟨listener, (List.getElem?_append_left inside).trans found, listening⟩
  | listen place =>
      by_cases own : place = index
      · subst own
        exact ⟨{ listener with listening := some .begun },
          by simp [Audience.perform, change, found], by simp⟩
      · exact other own
  | poll place => exact other fun same => unpolled (congrArg Deed.poll same)
  | giveUp place => exact other fun same => patient (congrArg Deed.giveUp same)

end Audience

open Audience

variable {first audience later : Audience} {past more : List (Audience × Deed)}

/-- The coordinator itself is changed only by what is done with it. -/
theorem Audience.coordinatorPerform (audience : Audience) (deed : Deed) :
    (audience.perform deed).coordinator.triggered =
        (audience.coordinator.triggered || deed.isTrigger) ∧
      (audience.perform deed).coordinator.held =
        (audience.coordinator.held && !deed.isDrop) := by
  cases deed with
  | act now action =>
      simp only [Audience.perform, Audience.act, Coordinator.triggeredPerform,
        Coordinator.heldPerform]
      cases action <;> simp [Deed.isTrigger, Deed.isDrop]
  | _ => simp [Audience.perform, change, Deed.isTrigger, Deed.isDrop]

/-- The first signal is announced, with what is outstanding then, and nothing else is. -/
theorem Audience.reportsAnnounce (audience : Audience) (deed : Deed) :
    (audience.reports deed).filter (fun event => event.message = "Shutdown triggered") =
      if deed.isTrigger = true ∧ audience.coordinator.triggered = false then
        [Coordinator.triggerEvent audience.coordinator.outstanding]
      else [] := by
  cases deed with
  | act now action =>
      simp only [reports, Coordinator.announces]
      cases action <;> simp [Deed.isTrigger]
  | _ => simp [reports, Deed.isTrigger]

theorem isGivenConcat (audience : Audience) (deed : Deed) :
    IsGiven (past ++ [(audience, deed)]) ↔ IsGiven past ∨ deed.isTrigger = true := by
  simp [IsGiven, or_and_right, exists_or]

theorem isDroppedConcat (audience : Audience) (deed : Deed) :
    IsDropped (past ++ [(audience, deed)]) ↔ IsDropped past ∨ deed.isDrop = true := by
  simp [IsDropped, or_and_right, exists_or]

theorem announcementsConcat (audience : Audience) (deed : Deed) :
    announcements (past ++ [(audience, deed)]) = announcements past ++
      (audience.reports deed).filter fun event => event.message = "Shutdown triggered" := by
  simp [announcements]

namespace Story

theorem sound (story : Story first past audience) (begins : first.Sound) : audience.Sound := by
  induction story with
  | start => exact begins
  | next _ _ inductionHypothesis => exact inductionHypothesis.perform _

theorem reachable (story : Story first past audience)
    (begins : first.coordinator.Reachable) : audience.coordinator.Reachable := by
  induction story with
  | start => exact begins
  | @next past audience deed _ allowed inductionHypothesis =>
      cases deed with
      | act now action => exact .next inductionHypothesis now action allowed
      | _ => exact inductionHypothesis

/-- The coordinator knows of the signal exactly if it knew before or the signal was given since. -/
theorem triggeredIff (story : Story first past audience) :
    audience.coordinator.triggered = true ↔
      first.coordinator.triggered = true ∨ IsGiven past := by
  induction story with
  | start => simp [IsGiven]
  | next _ _ inductionHypothesis =>
      rw [(coordinatorPerform _ _).1, Bool.or_eq_true, inductionHypothesis, isGivenConcat, or_assoc]

theorem heldIff (story : Story first past audience) :
    audience.coordinator.held = true ↔ first.coordinator.held = true ∧ ¬ IsDropped past := by
  induction story with
  | start => simp [IsDropped]
  | next _ _ inductionHypothesis =>
      rw [(coordinatorPerform _ _).2, Bool.and_eq_true, inductionHypothesis, isDroppedConcat,
        not_or, and_assoc, Bool.not_eq_true', Bool.not_eq_true]

/-- Nobody brings back a coordinator that is gone, and so nobody gives its signal any more. -/
theorem goneKept (story : Story first past audience)
    (gone : first.coordinator.isGone = true) : audience.coordinator.isGone = true ∧
      audience.coordinator.triggered = first.coordinator.triggered := by
  induction story with
  | start => exact ⟨gone, rfl⟩
  | @next past audience deed _ allowed inductionHypothesis =>
      obtain ⟨stillGone, same⟩ := inductionHypothesis
      cases deed with
      | act now action =>
          have unasked : action ≠ .trigger := by
            rintro rfl
            have present : audience.coordinator.isGone = false := allowed
            rw [present] at stillGone
            contradiction
          refine ⟨Coordinator.goneKept now allowed stillGone, ?_⟩
          rw [← same, (coordinatorPerform _ _).1]
          cases action <;> simp_all [Deed.isTrigger]
      | _ => exact ⟨stillGone, same⟩

theorem listens {index : Nat} (story : Story first past audience) (listens : first.Listens index)
    (undisturbed : ∀ entry ∈ past, entry.2 ≠ .poll index ∧ entry.2 ≠ .giveUp index) :
    audience.Listens index := by
  induction story with
  | start => exact listens
  | next _ _ inductionHypothesis =>
      obtain ⟨before, last⟩ := List.forall_mem_append.mp undisturbed
      obtain ⟨unpolled, patient⟩ := last _ (List.mem_singleton_self _)
      exact (inductionHypothesis before).perform unpolled patient

/-- The first signal is announced with the tokens that are held when it is given. -/
theorem announced (story : Story {} past audience) : announcements past =
    ((past.find? fun entry => entry.2.isTrigger).map fun entry =>
      Coordinator.triggerEvent (entry.1.coordinator.tokens.count true)).toList := by
  induction story with
  | start => rfl
  | @next past audience deed story allowed inductionHypothesis =>
      have balanced := (story.reachable .new).balanced.outstanding
      rw [announcementsConcat, reportsAnnounce, inductionHypothesis, List.find?_append, balanced]
      have known := story.triggeredIff
      cases found : past.find? fun entry => entry.2.isTrigger with
      | some entry =>
          have given : audience.coordinator.triggered = true := by
            have isTrigger := List.find?_some found
            exact known.mpr (.inr ⟨entry, List.mem_of_find?_eq_some found, isTrigger⟩)
          simp [given]
      | none =>
          have unknown : audience.coordinator.triggered = false := by
            rw [Bool.eq_false_iff, ne_eq, known]
            rintro (begun | ⟨entry, member, isTrigger⟩)
            · contradiction
            · exact absurd isTrigger (List.find?_eq_none.mp found entry member)
          cases isTrigger : deed.isTrigger <;> simp [unknown, isTrigger]

end Story

/-- A listener has its turn as a task of a session has it. -/
theorem Audience.Sound.heard {index : Nat} (sound : audience.Sound)
    (listens : audience.Listens index) :
    audience.Hears index ↔ audience.coordinator.signalArrives = true := by
  obtain ⟨listener, found, listening⟩ := listens
  have attentive := sound.attentive listener (List.mem_of_getElem? found)
  have polled : (audience.perform (.poll index)).listeners[index]? =
      some (listener.poll audience.board) := by
    simp [Audience.perform, Audience.change, found]
  rw [Hears, polled, Option.map_some, Option.some.injEq,
    attentive.pollDone sound.counts listening, sound.given, sound.closed,
    Coordinator.signalArrives, Bool.or_eq_true]

/-- This is what the signal of a coordinator is to its listeners, whatever was done before. -/
structure OneShot (past : List (Audience × Deed)) (audience : Audience) : Prop where
  /-- The coordinator and all listeners know of the signal exactly from its first time on. -/
  given : (audience.coordinator.triggered = true ↔ IsGiven past) ∧
    (audience.board.given = true ↔ IsGiven past)
  /-- Whoever listens is done with its next turn exactly if the signal was given, by then or before,
  or the coordinator is gone. -/
  heard : ∀ index, audience.Listens index →
    (audience.Hears index ↔ IsGiven past ∨ audience.coordinator.isGone = true)
  /-- And everybody gets this turn, since nobody is left asleep. -/
  called : IsGiven past ∨ audience.coordinator.isGone = true →
    ∀ listener ∈ audience.listeners, listener.listening ≠ some .asleep
  /-- Whoever listens does so until its own turn or until it gives up. -/
  patient : ∀ index more later, Story audience more later → audience.Listens index →
    (∀ entry ∈ more, entry.2 ≠ .poll index ∧ entry.2 ≠ .giveUp index) → later.Listens index
  /-- A coordinator is gone only after its owner has let go of it. -/
  dropped : audience.coordinator.isGone = true ↔
    IsDropped past ∧ ∀ waiter ∈ audience.coordinator.waiters, waiter.isDone = true
  /-- The signal is never taken back, and it never comes from a coordinator that is gone. -/
  lasts : ∀ more later, Story audience more later →
    (IsGiven past → later.coordinator.triggered = true) ∧
      (audience.coordinator.isGone = true → later.coordinator.isGone = true ∧
        later.coordinator.triggered = audience.coordinator.triggered)
  /-- Only the first signal is announced, with the number of tokens that are held then. -/
  announced : announcements past =
    ((past.find? fun entry => entry.2.isTrigger).map fun entry =>
      Coordinator.triggerEvent (entry.1.coordinator.tokens.count true)).toList
  /-- A task that awaits the signal in a session fares like every listener. -/
  tasks : ∀ session : Session, session.coordinator = audience.coordinator →
    ∀ index, audience.Listens index →
      ((session.pollTask .awaitSignal).1 = .arrived ↔ audience.Hears index)

/-- The signal is given once for all and announced once, and it reaches everybody who listens,
early or late, again or for the first time. -/
theorem signalReachesEverybody {past : List (Audience × Deed)} {audience : Audience}
    (story : Story {} past audience) : OneShot past audience := by
  have sound : audience.Sound := story.sound ⟨rfl, by simp, rfl, by simp⟩
  have known : audience.coordinator.triggered = true ↔ IsGiven past := by
    rw [story.triggeredIff]
    simp
  have arrives : audience.coordinator.signalArrives = true ↔
      IsGiven past ∨ audience.coordinator.isGone = true := by
    rw [Coordinator.signalArrives, Bool.or_eq_true, known]
  refine ⟨⟨known, sound.given ▸ known⟩, fun index listens => (sound.heard listens).trans arrives,
    ?_, fun _ _ _ later => later.listens, ?_, fun more later continued => ⟨?_, continued.goneKept⟩,
    story.announced, ?_⟩
  · intro reached listener member asleep
    obtain ⟨quiet, opened⟩ := (sound.attentive listener member).awake asleep
    rw [sound.given] at quiet
    rw [sound.closed] at opened
    rcases reached with given | gone
    · simp [known.mpr given] at quiet
    · simp [gone] at opened
  · have held := story.heldIff
    rw [Coordinator.isGone, Bool.and_eq_true, Bool.not_eq_true', ← Bool.not_eq_true, held,
      List.all_eq_true]
    simp
  · intro given
    exact continued.triggeredIff.mpr (.inl (known.mpr given))
  · intro session same index listens
    rw [sound.heard listens, ← same, Session.pollTask]
    split <;> simp_all

/-- These deeds make a story from the beginning. -/
def tell (deeds : List Deed) : List (Audience × Deed) × Audience :=
  deeds.foldl (fun story deed => (story.1 ++ [(story.2, deed)], story.2.perform deed)) ([], {})

/-- The signal wakes a listener that sleeps, is given again, and meets a clone that begins late. -/
def wokenByTheFirst : List (Audience × Deed) × Audience :=
  tell [.subscribe, .listen 0, .poll 0, .act 0 .issue, .act 7 .trigger, .act 8 .trigger, .clone 0,
    .listen 1]

theorem signalReachesEverybodyAsleep :
    Story {} wokenByTheFirst.1 wokenByTheFirst.2 ∧
    OneShot wokenByTheFirst.1 wokenByTheFirst.2 ∧
    announcements wokenByTheFirst.1 = [Coordinator.triggerEvent 1] ∧
    wokenByTheFirst.2.Hears 0 ∧ wokenByTheFirst.2.Hears 1 := by
  have story : Story {} wokenByTheFirst.1 wokenByTheFirst.2 :=
    .next (.next (.next (.next (.next (.next (.next (.next .start rfl) rfl) trivial) rfl) rfl) rfl)
      trivial) rfl
  have oneShot := signalReachesEverybody story
  have given : IsGiven wokenByTheFirst.1 := oneShot.given.1.mp rfl
  refine ⟨story, oneShot, oneShot.announced, ?_, ?_⟩
  · exact (oneShot.heard 0 ⟨_, rfl, by decide⟩).mpr (.inl given)
  · exact (oneShot.heard 1 ⟨_, rfl, by decide⟩).mpr (.inl given)

end NodeBridge.Shutdown
