import NodeBridge.Proofs.Observer.Bookkeeping
import NodeBridge.Proofs.Observer.Timing

/-
This file defines what a worker does apart from its feed and when two worlds agree on it.
Attempts, the results of subscriptions, closed subscriptions, published statuses and the counters
of attempts and failures belong to it, and nobody but the worker adds to it.
-/

namespace NodeBridge.Observer

variable {State Item : Type}

/-- These happenings concern the feed and nothing else. -/
def Happening.concernsFeed : Happening Item → Bool
  | forwarded _ => true
  | unwanted _ => true
  | ignored _ => true
  | cutOff _ => true
  | taken _ => true
  | _ => false

/-- These happenings belong to the way out of a worker. -/
def Happening.ofExit : Happening Item → Bool
  | changed .terminating => true
  | closed _ => true
  | ended => true
  | _ => false

/-- This is what the happenings say apart from the feed. -/
def apartFromFeed (added : List (Happening Item)) : List (Happening Item) :=
  added.filter fun happening => !happening.concernsFeed

def attempted? : Nat × Happening Item → Option Nat
  | (time, .attempted) => some time
  | _ => none

/-- A look at a subscription results in an item or in an error, at its time. -/
def received? : Nat × Happening Item → Option (Nat × Nat × Except StreamError Item)
  | (time, .delivered number item) => some (time, number, .ok item)
  | (time, .broken number error) => some (time, number, .error error)
  | _ => none

namespace World

/-- These are the results that the worker got from its subscriptions, with their times. -/
def received (world : World State Item) : List (Nat × Nat × Except StreamError Item) :=
  world.annals.filterMap received?

/-- The worker did this apart from what it did with its feed. -/
def deeds (world : World State Item) : List (Happening Item) := apartFromFeed world.chronicle

end World

/-- These counters have nothing to do with the feed. -/
def feedlessCounters (topic : String) : List Metric :=
  [.openAttempts topic, .openFailures topic, .streamFailures topic]

/-- The other side of the worker cannot tell the first world from the second one. -/
structure SameConduct (topic : String) (first second : World State Item) : Prop where
  attempts : first.attempts = second.attempts
  received : first.received = second.received
  closed : first.closed = second.closed
  published : first.published = second.published
  counters : ∀ counter ∈ feedlessCounters topic,
    first.metrics.count counter = second.metrics.count counter

/-- The two worlds agree, except that the second one has not yet done what is missing, which
belongs to its way out. -/
structure Matching (topic : String) (first second : World State Item)
    (missing : List (Happening Item)) : Prop where
  attempts : first.attempts = second.attempts
  received : first.received = second.received
  deeds : first.deeds = second.deeds ++ missing
  counters : ∀ counter ∈ feedlessCounters topic,
    first.metrics.count counter = second.metrics.count counter
  late : ∀ happening ∈ missing, happening.ofExit = true

variable {source : Source State Item} {remote : State → State → Prop} {topic : String}
  {world next first second other : World State Item} {worker later : Worker Item}
  {added others missing : List (Happening Item)} {time : Nat}

section Accounts

/-- Whoever does not look at the feed does not miss it. -/
theorem feedUnseen {B : Type} {choose : Nat × Happening Item → Option B}
    (blind : ∀ happening, happening.concernsFeed = true → choose (time, happening) = none)
    (added : List (Happening Item)) : (added.map (Prod.mk time)).filterMap choose =
      ((apartFromFeed added).map (Prod.mk time)).filterMap choose := by
  rw [apartFromFeed, List.filterMap_map, List.filterMap_map, List.filterMap_filter]
  congr 1
  funext happening
  cases concerns : happening.concernsFeed with
  | true => simpa using blind happening concerns
  | false => simp

/-- Attempts, results and counters have nothing to do with the way out. -/
theorem exitUnseen (topic : String) (time : Nat)
    (late : ∀ happening ∈ missing, happening.ofExit = true) :
    (missing.map (Prod.mk time)).filterMap attempted? = [] ∧
    (missing.map (Prod.mk time)).filterMap received? = [] ∧
    missing.filterMap (Happening.counter? topic) = [] := by
  simp only [List.filterMap_map, List.filterMap_eq_nil_iff]
  refine ⟨?_, ?_, ?_⟩
  all_goals
    intro happening member
    have exit := late happening member
    cases happening <;> first | rfl | cases exit

/-- Nothing on the way out concerns the feed. -/
theorem exitKept (late : ∀ happening ∈ missing, happening.ofExit = true) :
    apartFromFeed missing = missing := by
  refine List.filter_eq_self.mpr fun happening member => ?_
  have exit := late happening member
  cases happening <;> first | rfl | cases exit

/-- A counter that does not count items is not touched by what concerns the feed. -/
theorem feedUncounted {counter : Metric} (own : counter ∈ feedlessCounters topic)
    (added : List (Happening Item)) : (added.filterMap (Happening.counter? topic)).count counter =
      ((apartFromFeed added).filterMap (Happening.counter? topic)).count counter := by
  have unlike : Metric.itemsForwarded topic ≠ counter := by
    rintro rfl
    simp [feedlessCounters] at own
  induction added with
  | nil => rfl
  | cons happening rest inductionHypothesis =>
      simp only [apartFromFeed] at inductionHypothesis ⊢
      cases happening <;>
        simp [Happening.concernsFeed, List.filterMap_cons, List.count_cons, unlike,
          inductionHypothesis]

/-- The accounts grow with the annals. -/
theorem World.accountsAdded (annals : next.annals = world.annals ++ added.map (Prod.mk time)) :
    next.attempts = world.attempts ++ (added.map (Prod.mk time)).filterMap attempted? ∧
    next.received = world.received ++ (added.map (Prod.mk time)).filterMap received? ∧
    next.deeds = world.deeds ++ apartFromFeed added := by
  have asked (world : World State Item) : world.attempts = world.annals.filterMap attempted? := by
    rw [attempts, World.annals, List.filterMap_reverse]
    congr 2
    funext entry
    rcases entry with ⟨_, _ | _⟩ <;> rfl
  have told (world : World State Item) : world.chronicle = world.annals.map Prod.snd := by
    rw [chronicle, World.annals, List.map_reverse]
  refine ⟨?_, ?_, ?_⟩
  · rw [asked, asked, annals, List.filterMap_append]
  · rw [received, annals, List.filterMap_append, received]
  · rw [deeds, deeds, told, told, annals, apartFromFeed, apartFromFeed, apartFromFeed,
      List.map_append, List.filter_append, List.map_map]
    simp [Function.comp_def]

/-- Others leave the accounts of the worker as they are. -/
theorem Outside.accounts (moved : Outside remote world next) (topic : String) :
    next.attempts = world.attempts ∧ next.received = world.received ∧ next.deeds = world.deeds ∧
      ∀ counter ∈ feedlessCounters topic,
        next.metrics.count counter = world.metrics.count counter := by
  obtain ⟨items, annals⟩ := moved.annals
  obtain ⟨attempts, received, deeds⟩ := World.accountsAdded annals
  have unfed : apartFromFeed (items.map .taken : List (Happening Item)) = [] := by
    simp [apartFromFeed, Happening.concernsFeed]
  rw [feedUnseen (by rintro ⟨⟩ <;> simp [Happening.concernsFeed, attempted?]), unfed] at attempts
  rw [feedUnseen (by rintro ⟨⟩ <;> simp [Happening.concernsFeed, received?]), unfed] at received
  rw [unfed] at deeds
  refine ⟨attempts.trans (List.append_nil _), received.trans (List.append_nil _),
    deeds.trans (List.append_nil _), ?_⟩
  intro counter own
  rcases moved.metrics with same | ⟨call, failed⟩
  · rw [same]
  · rw [failed, Metrics.countIncrement, if_neg, Nat.add_zero]
    rintro rfl
    simp [feedlessCounters] at own

end Accounts

namespace Matching

/-- Two runs that are the same up to their feeds show the same conduct. -/
theorem conduct (matching : Matching topic first second []) : SameConduct topic first second := by
  have deeds : first.deeds = second.deeds := by simpa using matching.deeds
  have read {B : Type} (choose : Happening Item → Option B)
      (blind : ∀ happening, happening.concernsFeed = true → choose happening = none)
      (world : World State Item) :
      world.chronicle.filterMap choose = world.deeds.filterMap choose := by
    rw [World.deeds, apartFromFeed, List.filterMap_filter]
    congr 1
    funext happening
    cases concerns : happening.concernsFeed with
    | true => simpa using blind happening concerns
    | false => simp
  refine ⟨matching.attempts, matching.received, ?_, ?_, matching.counters⟩
  · rw [World.closed, World.closed, read _ (by rintro ⟨⟩ <;> simp [Happening.concernsFeed]),
      read _ (by rintro ⟨⟩ <;> simp [Happening.concernsFeed]), deeds]
  · rw [World.published, World.published,
      read _ (by rintro ⟨⟩ <;> simp [Happening.concernsFeed]),
      read _ (by rintro ⟨⟩ <;> simp [Happening.concernsFeed]), deeds]

/-- Both do the same at the same time, and the second one may leave the end of it for later. -/
theorem after (matching : Matching topic first second [])
    (annals : next.annals = first.annals ++ added.map (Prod.mk time))
    (otherAnnals : other.annals = second.annals ++ others.map (Prod.mk time))
    (metrics : next.metrics = tally topic first.metrics added)
    (otherMetrics : other.metrics = tally topic second.metrics others)
    (same : apartFromFeed added = apartFromFeed others ++ missing)
    (late : ∀ happening ∈ missing, happening.ofExit = true) :
    Matching topic next other missing := by
  obtain ⟨attempts, received, deeds⟩ := World.accountsAdded annals
  obtain ⟨otherAttempts, otherReceived, otherDeeds⟩ := World.accountsAdded otherAnnals
  obtain ⟨unasked, unreceived, uncounted⟩ := exitUnseen topic time late
  refine ⟨?_, ?_, ?_, ?_, late⟩
  · rw [attempts, otherAttempts, matching.attempts,
      feedUnseen (by rintro ⟨⟩ <;> simp [Happening.concernsFeed, attempted?]) added,
      feedUnseen (by rintro ⟨⟩ <;> simp [Happening.concernsFeed, attempted?]) others, same,
      List.map_append, List.filterMap_append, unasked, List.append_nil]
  · rw [received, otherReceived, matching.received,
      feedUnseen (by rintro ⟨⟩ <;> simp [Happening.concernsFeed, received?]) added,
      feedUnseen (by rintro ⟨⟩ <;> simp [Happening.concernsFeed, received?]) others, same,
      List.map_append, List.filterMap_append, unreceived, List.append_nil]
  · rw [deeds, otherDeeds, matching.deeds, same, List.append_nil, List.append_assoc]
  · intro counter own
    have unlike : counter ≠ .subscribed topic := by
      rintro rfl
      simp [feedlessCounters] at own
    rw [metrics, otherMetrics, countTally _ _ unlike, countTally _ _ unlike,
      matching.counters counter own, feedUncounted own added, feedUncounted own others, same,
      List.filterMap_append, uncounted, List.append_nil]

/-- What others do in the first world leaves its accounts as they are. -/
theorem asideFirst (matching : Matching topic first second missing)
    (moved : Outside remote first next) : Matching topic next second missing := by
  obtain ⟨attempts, received, deeds, counters⟩ := moved.accounts topic
  refine ⟨attempts.trans matching.attempts, received.trans matching.received,
    deeds.trans matching.deeds, ?_, matching.late⟩
  exact fun counter own => (counters counter own).trans (matching.counters counter own)

theorem asideSecond (matching : Matching topic first second missing)
    (moved : Outside remote second next) : Matching topic first next missing := by
  obtain ⟨attempts, received, deeds, counters⟩ := moved.accounts topic
  refine ⟨matching.attempts.trans attempts.symm, matching.received.trans received.symm, ?_, ?_,
    matching.late⟩
  · rw [deeds]
    exact matching.deeds
  · exact fun counter own => (matching.counters counter own).trans (counters counter own).symm

/-- Both go on with their way out, the second one behind the first. -/
theorem advance {before : List (Happening Item)} {otherTime : Nat}
    (matching : Matching topic first second before)
    (annals : next.annals = first.annals ++ added.map (Prod.mk time))
    (otherAnnals : other.annals = second.annals ++ others.map (Prod.mk otherTime))
    (metrics : next.metrics = tally topic first.metrics added)
    (otherMetrics : other.metrics = tally topic second.metrics others)
    (exits : ∀ happening ∈ added, happening.ofExit = true)
    (same : before ++ added = others ++ missing) : Matching topic next other missing := by
  have late (happening : Happening Item) (member : happening ∈ others ++ missing) :
      happening.ofExit = true := by
    rw [← same] at member
    rcases List.mem_append.mp member with earlier | now
    · exact matching.late happening earlier
    · exact exits happening now
  have exitsToo (happening : Happening Item) (member : happening ∈ others) :
      happening.ofExit = true := late happening (List.mem_append_left _ member)
  obtain ⟨attempts, received, deeds⟩ := World.accountsAdded annals
  obtain ⟨otherAttempts, otherReceived, otherDeeds⟩ := World.accountsAdded otherAnnals
  obtain ⟨unasked, unreceived, uncounted⟩ := exitUnseen topic time exits
  obtain ⟨unaskedToo, unreceivedToo, uncountedToo⟩ :=
    exitUnseen topic otherTime exitsToo
  refine ⟨?_, ?_, ?_, ?_, fun happening member => late happening (List.mem_append_right _ member)⟩
  · rw [attempts, otherAttempts, unasked, unaskedToo, matching.attempts]
  · rw [received, otherReceived, unreceived, unreceivedToo, matching.received]
  · rw [deeds, otherDeeds, exitKept exits, exitKept exitsToo, matching.deeds, List.append_assoc,
      same, List.append_assoc]
  · intro counter own
    have unlike : counter ≠ .subscribed topic := by
      rintro rfl
      simp [feedlessCounters] at own
    rw [metrics, otherMetrics, countTally _ _ unlike, countTally _ _ unlike,
      matching.counters counter own, uncounted, uncountedToo]

end Matching

end NodeBridge.Observer
