import NodeBridge.Heads.Source
import NodeBridge.Proofs.Heads.Ledger
import NodeBridge.Proofs.Observer.Run

/-
This file traces every request of a worker that observes new headers.
A request is spent with an attempt that ran into its limit, or it was refused, or the worker goes
after it, unless the client has given up.
-/

namespace NodeBridge.Heads

open Observer

variable {pubsub : Bool} {limit : Duration} {ledger : List Confirmed} {worker later : Worker Header}

/-- The newest request is that of the attempt under way, and later on that of the subscription. -/
def Pursued (request : Nat) (worker : Worker Header) (holder : Holder) : Prop :=
  request + 1 = holder.client.nextRequest ∧
    match worker.phase with
    | .created => False
    | .pausing _ => False
    | .leaving none => False
    | .opening => ∃ deadline limit, holder.attempt = some (.asked request deadline limit)
    | _ => True

/-- It is known what has become of every request. -/
structure Traced (count : Nat) (worker : Worker Header) (holder : Holder) : Prop where
  fates : ∃ spent : List Nat, spent.length ≤ count ∧
    ∀ request, request < holder.client.nextRequest → request ∈ spent ∨
      Pursued request worker holder ∨ holder.client.Refused request ∨ holder.client.link = .gone
  held : worker.phase.held? ≠ none → ∃ handle, holder.subscription = some ⟨some handle⟩ ∧
    handle.broadcast < holder.client.broadcasts.length

/-- The books are right, nothing is closed before the way out, and every request is traced. -/
structure Kept (ledger : List Confirmed) (count : Nat) (worker : Worker Header)
    (holder : Holder) : Prop where
  unordered : worker.cancelled = false
  books : holder.client.Books ledger
  calm : worker.phase.hasClosed = false → holder.client.Calm ledger
  traced : Traced count worker holder

variable {holder after : Holder} {count now number : Nat} {error : OpenError} {name : String}
  {request : Nat} {result : Except OpenError String}

/-- An attempt that is complete is over, and if it succeeded its subscription is held. -/
theorem completedCases (completed : holder.completion? now = some (result, after)) :
    ∃ attempt, holder.attempt = some attempt ∧ ∃ outcome,
      completion? now holder.client attempt = some outcome ∧
      ((∃ handle, outcome = .ok handle ∧ result = .ok topic ∧
          after = { holder with attempt := none, subscription := some ⟨some handle⟩ }) ∨
        ∃ error, outcome = .error error ∧ result = .error error ∧
          after = { holder with attempt := none }) := by
  cases found : holder.attempt with
  | none => simp [Holder.completion?, found] at completed
  | some attempt =>
      refine ⟨attempt, rfl, ?_⟩
      cases answered : completion? now holder.client attempt with
      | none => simp [Holder.completion?, found, answered] at completed
      | some outcome =>
          refine ⟨outcome, rfl, ?_⟩
          cases outcome with
          | ok handle =>
              simp only [Holder.completion?, found, Option.bind_eq_bind, Option.bind_some,
                answered] at completed
              cases completed
              exact .inl ⟨handle, rfl, rfl, rfl⟩
          | error error =>
              simp only [Holder.completion?, found, Option.bind_eq_bind, Option.bind_some,
                answered] at completed
              cases completed
              exact .inr ⟨error, rfl, rfl, rfl⟩

theorem completedClient (completed : holder.completion? now = some (result, after)) :
    after.client = holder.client := by
  obtain ⟨_, _, _, _, ⟨_, _, _, rfl⟩ | ⟨_, _, _, rfl⟩⟩ := completedCases completed <;> rfl

/-- What is delivered comes from one look at the subscription that is held. -/
theorem deliveredOnce {handle : Handle} {delivery : Delivery Header}
    (held : holder.subscription = some ⟨some handle⟩)
    (delivered : holder.delivery? = some (delivery, after)) :
    ∃ place, (Subscription.mk (some handle)).look holder.client =
        (some delivery, ⟨some { handle with place }⟩) ∧
      after = { holder with subscription := some ⟨some { handle with place }⟩ } := by
  obtain ⟨found, place, looked⟩ : ∃ found place,
      (Subscription.mk (some handle)).look holder.client =
        (found, ⟨some { handle with place }⟩) := ⟨_, _, rfl⟩
  cases found with
  | none => simp [Holder.delivery?, held, looked] at delivered
  | some other =>
      simp [Holder.delivery?, held, looked] at delivered
      obtain ⟨rfl, rfl⟩ := delivered
      exact ⟨place, looked, rfl⟩

/-- Whoever reads from an open broadcast does not come to an end. -/
theorem endlessRead {broadcast : Broadcast Notice} (live : broadcast.isOpen = true)
    (error : StreamError) (count place : Nat) :
    (Subscription.readFrom count broadcast place).1 ≠ some (.failure error) := by
  induction count generalizing place with
  | zero => simp [Subscription.readFrom]
  | succ count inductionHypothesis =>
      rw [Subscription.readFrom]
      split
      · simp
      · exact inductionHypothesis _
      · simp
      · simp
      case h_5 closed =>
        simp only [Broadcast.read, live, if_true] at closed
        split at closed
        · cases closed
        · split at closed <;> cases closed

/-- A worker that holds a subscription, or has closed it, goes after the newest request. -/
theorem pursuedIff (settled : worker.phase.held? ≠ none ∨ worker.phase.hasClosed = true) :
    Pursued request worker holder ↔ request + 1 = holder.client.nextRequest := by
  unfold Pursued
  cases phase : worker.phase with
  | leaving held =>
      cases held <;> simp_all [Phase.held?, Phase.hasClosed, Phase.isOver]
  | _ => simp_all [Phase.held?, Phase.hasClosed, Phase.isOver]

namespace Traced

/-- Whatever is done to the client, what has become of its requests stays known. -/
theorem undergo (traced : Traced count worker holder) (deed : Deed) :
    Traced count worker { holder with client := holder.client.undergo deed } := by
  obtain ⟨next, ⟨more, answers⟩, length, gone⟩ := (holder.client.deedCases deed).grows
  obtain ⟨spent, few, fates⟩ := traced.fates
  refine ⟨⟨spent, few, fun request below => ?_⟩, fun holds => ?_⟩
  · rcases fates request (next ▸ below) with old | pursued | refused | left
    · exact .inl old
    · refine .inr (.inl ?_)
      unfold Pursued at pursued ⊢
      exact ⟨pursued.1.trans next.symm, pursued.2⟩
    · exact .inr (.inr (.inl (refused.keep answers)))
    · exact .inr (.inr (.inr (gone left)))
  · obtain ⟨handle, held, inside⟩ := traced.held holds
    exact ⟨handle, held, Nat.lt_of_lt_of_le inside length⟩

/-- A new attempt goes after a new request, provided that no request is left without a fate. -/
theorem beginOpen (traced : Traced count worker holder)
    (idle : ∀ request, ¬ Pursued request worker holder) (phase : later.phase = .opening) :
    Traced count later (holder.beginOpen pubsub limit now name) := by
  obtain ⟨spent, few, fates⟩ := traced.fates
  have before : ∀ request, request < holder.client.nextRequest → request ∈ spent ∨
      holder.client.Refused request ∨ holder.client.link = .gone := by
    intro request below
    rcases fates request below with old | pursued | rest
    · exact .inl old
    · exact absurd pursued (idle request)
    · exact .inr rest
  have unheld : later.phase.held? ≠ none → False := by simp [phase, Phase.held?]
  rcases beginOpenEither pubsub limit now name holder.client with ⟨error, failed⟩ | asked
  · simp only [Holder.beginOpen, failed]
    exact ⟨⟨spent, few, fun request below => (before request below).imp_right .inr⟩,
      fun holds => (unheld holds).elim⟩
  · simp only [Holder.beginOpen, asked]
    refine ⟨⟨spent, few, fun request below => ?_⟩, fun holds => (unheld holds).elim⟩
    rcases Nat.lt_succ_iff_lt_or_eq.mp below with earlier | rfl
    · exact (before request earlier).imp_right .inr
    · refine .inr (.inl ⟨rfl, ?_⟩)
      rw [phase]
      exact ⟨_, _, rfl⟩

/-- The request of an attempt that succeeds is that of the subscription. -/
theorem subscribed (traced : Traced count worker holder)
    (placed : ∀ request handle, (request, .ok handle) ∈ holder.client.answers →
      handle.broadcast < holder.client.broadcasts.length)
    (completed : holder.completion? now = some (.ok name, after))
    (holds : later.phase.held? ≠ none) : Traced count later after := by
  obtain ⟨attempt, _, _, answered, ⟨handle, rfl, _, rfl⟩ | ⟨_, _, impossible, _⟩⟩ :=
    completedCases completed
  case inr => cases impossible
  obtain ⟨spent, few, fates⟩ := traced.fates
  refine ⟨⟨spent, few, fun request below => ?_⟩, fun _ => ⟨handle, rfl, ?_⟩⟩
  · rcases fates request below with old | pursued | rest
    · exact .inl old
    · exact .inr (.inl ((pursuedIff (.inl holds)).mpr pursued.1))
    · exact .inr (.inr rest)
  · rcases completionCases answered with ⟨_, _, failed⟩ |
        ⟨request, _, _, _, ⟨_, found, same⟩ | ⟨_, _, failed⟩ | failed⟩
    · cases failed
    · cases same
      obtain ⟨earlier, rest, whole, _⟩ := List.lookup_eq_some_iff.mp found
      exact placed request handle (whole ▸ List.mem_append_right _ List.mem_cons_self)
    · cases failed
    · cases failed

/-- A failed attempt was refused by the answer to its request, or its request is spent. -/
theorem refused {total due : Nat} (traced : Traced count worker holder)
    (opening : worker.phase = .opening)
    (completed : holder.completion? now = some (.error error, after)) (fewer : count ≤ total)
    (spends : ∀ limit, error = .timedOut limit → count < total)
    (pauses : later.phase = .pausing due) : Traced total later after := by
  obtain ⟨attempt, there, _, answered, ⟨_, _, impossible, _⟩ | ⟨_, rfl, same, rfl⟩⟩ :=
    completedCases completed
  case inl => cases impossible
  cases same
  obtain ⟨spent, few, fates⟩ := traced.fates
  refine ⟨?_, by simp [pauses, Phase.held?]⟩
  have others : ∀ request, request < holder.client.nextRequest →
      (∀ deadline limit, attempt ≠ .asked request deadline limit) → request ∈ spent ∨
        holder.client.Refused request ∨ holder.client.link = .gone := by
    intro request below other
    rcases fates request below with old | ⟨_, pursued⟩ | rest
    · exact .inl old
    · rw [opening] at pursued
      obtain ⟨deadline, limit, same⟩ := pursued
      exact absurd (Option.some.inj (there.symm.trans same)) (other deadline limit)
    · exact .inr rest
  rcases completionCases answered with ⟨_, rfl, _⟩ |
      ⟨request, deadline, limit, rfl, ⟨_, _, impossible⟩ | ⟨reason, found, _⟩ | late⟩
  · refine ⟨spent, Nat.le_trans few fewer, fun request below => ?_⟩
    exact (others request below (by simp)).imp_right .inr
  · cases impossible
  · refine ⟨spent, Nat.le_trans few fewer, fun other below => ?_⟩
    by_cases same : other = request
    · exact .inr (.inr (.inl ⟨reason, same ▸ found⟩))
    · exact (others other below fun _ _ equal => same (by cases equal; rfl)).imp_right .inr
  · have more := spends limit (Except.error.inj late)
    refine ⟨request :: spent, Nat.lt_of_le_of_lt few more, fun other below => ?_⟩
    by_cases same : other = request
    · exact .inl (same ▸ List.mem_cons_self)
    · rcases others other below fun _ _ equal => same (by cases equal; rfl) with old | rest
      · exact .inl (List.mem_cons_of_mem _ old)
      · exact .inr (.inr rest)

/-- A worker that goes after no request may leave without one. -/
theorem depart (traced : Traced count worker holder)
    (idle : ∀ request, ¬ Pursued request worker holder) (unheld : later.phase.held? = none) :
    Traced count later holder := by
  obtain ⟨spent, few, fates⟩ := traced.fates
  refine ⟨⟨spent, few, fun request below => ?_⟩, fun holds => absurd unheld holds⟩
  rcases fates request below with old | pursued | rest
  · exact .inl old
  · exact absurd pursued (idle request)
  · exact .inr (.inr rest)

/-- A worker that holds a subscription, or has closed it, goes after no other request. -/
theorem settle {queue : List Instruction} (traced : Traced count worker holder)
    (same : after.client = { holder.client with queue })
    (settled : later.phase.held? ≠ none ∨ later.phase.hasClosed = true)
    (held : later.phase.held? ≠ none → ∃ handle, after.subscription = some ⟨some handle⟩ ∧
      handle.broadcast < after.client.broadcasts.length) : Traced count later after := by
  obtain ⟨spent, few, fates⟩ := traced.fates
  have next : after.client.nextRequest = holder.client.nextRequest := by rw [same]
  refine ⟨⟨spent, few, fun request below => ?_⟩, held⟩
  rcases fates request (next ▸ below) with old | pursued | refused | gone
  · exact .inl old
  · exact .inr (.inl ((pursuedIff settled).mpr (pursued.1.trans next.symm)))
  · exact .inr (.inr (.inl (by rw [same]; exact refused)))
  · exact .inr (.inr (.inr (by rw [same]; exact gone)))

theorem deliver {delivery : Delivery Header} (traced : Traced count worker holder)
    (holds : worker.phase.held? ≠ none) (delivered : holder.delivery? = some (delivery, after)) :
    after.client = holder.client ∧
      ∀ {later : Worker Header}, later.phase.held? ≠ none → Traced count later after := by
  obtain ⟨handle, held, inside⟩ := traced.held holds
  obtain ⟨place, _, rfl⟩ := deliveredOnce held delivered
  exact ⟨rfl, fun still => traced.settle rfl (.inl still) fun _ => ⟨_, rfl, inside⟩⟩

/-- Once the client has given up no request matters any more. -/
theorem giveUp {due : Nat} (gone : after.client.link = .gone) (pauses : later.phase = .pausing due) :
    Traced count later after :=
  ⟨⟨[], Nat.zero_le _, fun _ _ => .inr (.inr (.inr gone))⟩, by simp [pauses, Phase.held?]⟩

theorem more {total : Nat} (traced : Traced count worker holder) (grown : count ≤ total) :
    Traced total worker holder := by
  obtain ⟨spent, few, fates⟩ := traced.fates
  exact ⟨⟨spent, Nat.le_trans few grown, fates⟩, traced.held⟩

end Traced

namespace Kept

theorem undergo {deed : Deed} (kept : Kept ledger count worker holder)
    (allowed : holder.client.Allows deed) :
    Kept (holder.client.enter ledger deed) count worker
      { holder with client := holder.client.undergo deed } where
  unordered := kept.unordered
  books := kept.books.step allowed (holder.client.deedCases deed)
  calm going := (kept.calm going).step kept.books (holder.client.deedCases deed)
  traced := kept.traced.undergo deed

theorem beginOpen (kept : Kept ledger count worker holder)
    (idle : ∀ request, ¬ Pursued request worker holder)
    (unclosed : worker.phase.hasClosed = false) :
    Kept ledger count { worker with phase := .opening }
      (holder.beginOpen pubsub limit now name) where
  unordered := kept.unordered
  books := by
    rcases beginOpenEither pubsub limit now name holder.client with ⟨error, failed⟩ | asked
    · simpa only [Holder.beginOpen, failed] using kept.books
    · simpa only [Holder.beginOpen, asked] using kept.books.ask
  calm _ := by
    rcases beginOpenEither pubsub limit now name holder.client with ⟨error, failed⟩ | asked
    · simpa only [Holder.beginOpen, failed] using kept.calm unclosed
    · simpa only [Holder.beginOpen, asked] using (kept.calm unclosed).ask _
  traced := kept.traced.beginOpen idle rfl

theorem more {total : Nat} (kept : Kept ledger count worker holder) (grown : count ≤ total) :
    Kept ledger total worker holder :=
  ⟨kept.unordered, kept.books, kept.calm, kept.traced.more grown⟩

/-- The worker goes on with the same client. -/
theorem goOn {total : Nat} (kept : Kept ledger count worker holder)
    (cancelled : later.cancelled = worker.cancelled) (unclosed : worker.phase.hasClosed = false)
    (client : after.client = holder.client) (traced : Traced total later after) :
    Kept ledger total later after where
  unordered := cancelled.trans kept.unordered
  books := client ▸ kept.books
  calm _ := client ▸ kept.calm unclosed
  traced := traced

/-- With nothing left to close the worker no longer acts on the client, whose queue may have got
a last instruction. -/
theorem close {queue : List Instruction} (kept : Kept ledger count worker holder)
    (cancelled : later.cancelled = worker.cancelled) (ending : later.phase.hasClosed = true)
    (same : after.client = { holder.client with queue }) (books : after.client.Books ledger) :
    Kept ledger count later after where
  unordered := cancelled.trans kept.unordered
  books := books
  calm unclosed := by
    rw [ending] at unclosed
    contradiction
  traced := by
    refine kept.traced.settle same (.inr ending) fun holds => ?_
    cases phase : later.phase <;> simp_all [Phase.held?, Phase.hasClosed, Phase.isOver]

/-- On its way out the worker asks for the end of the subscription that it holds. -/
theorem release (kept : Kept ledger count worker holder)
    (cancelled : later.cancelled = worker.cancelled) (ending : later.phase.hasClosed = true)
    (holds : worker.phase.held? ≠ none) : Kept ledger count later holder.close.1 := by
  obtain ⟨handle, held, _⟩ := kept.traced.held holds
  rcases closeEither handle holder.client with ⟨_, declined⟩ | accepted
  · have same : holder.close.1.client = holder.client := by simp only [Holder.close, held, declined]
    exact kept.close cancelled ending same (same ▸ kept.books)
  · have same : holder.close.1.client =
        { holder.client with queue := holder.client.queue ++ [.unsubscribe] } := by
      simp only [Holder.close, held, accepted]
    exact kept.close cancelled ending same (same ▸ kept.books.dismiss)

end Kept

end NodeBridge.Heads
