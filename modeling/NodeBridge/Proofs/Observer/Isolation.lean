import NodeBridge.Observer.Script
import NodeBridge.Proofs.Observer.Departure
import NodeBridge.Proofs.Observer.Twins

/-
This file shows that a consumer has no influence on the conduct of a worker whose feed is not
bounded. Whatever two consumers do, their workers are at most one step apart on the way out, and
both come to the same end.
-/

namespace NodeBridge.Observer

variable {State Item : Type}

variable {source : Source State Item} {topic : String} {world other : World State Item}
  {worker : Worker Item} {shut : Bool}

/-- Both workers come to their ends with this turn, and then nothing is missing. -/
def Concluding (source : Source State Item) (topic : String) (world other : World State Item) :
    Prop :=
  ∃ final last, (∀ one, Turn source world one ↔ one = final) ∧
    (∀ one, Turn source other one ↔ one = last) ∧ last.mayDeliver = false ∧
    last.clock = other.clock ∧ Matching topic final last []

namespace Concluding

theorem ofSilent (silent : world.mayDeliver = false) (silentToo : other.mayDeliver = false)
    (matching : Matching topic world other []) : Concluding source topic world other :=
  ⟨world, other, fun _ => Turn.restIff (World.stepOfSilent silent),
    fun _ => Turn.restIff (World.stepOfSilent silentToo), silentToo, rfl, matching⟩

/-- A turn may begin with one step in each world. -/
theorem before (concluding : Concluding source topic (world.undergo source .turn)
      (other.undergo source .turn))
    (clock : (other.undergo source .turn).clock = other.clock) :
    Concluding source topic world other := by
  have same (world one : World State Item) :
      Turn source (world.undergo source .turn) one ↔ Turn source world one := by
    rw [World.undergo]
    cases stepped : world.step source with
    | none => rfl
    | some next => exact (Turn.stepIff stepped).symm
  obtain ⟨final, last, turns, turnsToo, silent, sameClock, matching⟩ := concluding
  exact ⟨final, last, fun one => (same world one).symm.trans (turns one),
    fun one => (same other one).symm.trans (turnsToo one), silent, sameClock.trans clock, matching⟩

theorem ofEnding (abreast : Abreast topic shut worker world other)
    (phase : worker.phase = .ending) : Concluding source topic world other := by
  have finished : Abreast topic shut _ (world.undergo source .turn)
      (other.undergo source .turn) := abreast.finishes phase
  refine before (ofSilent ?_ ?_ finished.matching) ?_
  · simp [World.mayDeliver, finished.present, Phase.isOver]
  · simp [World.mayDeliver, finished.presentToo, Phase.isOver]
  · exact World.clockTurn abreast.presentToo abreast.unordered

/-- Two workers that have left their loops abreast end abreast. -/
theorem ofAbreast (abreast : Abreast topic shut worker world other)
    (left : worker.phase.hasLeft = true) : Concluding source topic world other := by
  cases phase : worker.phase with
  | leaving held =>
      exact before (ofEnding (abreast.closes phase) rfl)
        (World.clockTurn abreast.presentToo abreast.unordered)
  | ending => exact ofEnding abreast phase
  | finished | stopped =>
      refine ofSilent ?_ ?_ abreast.matching
      · simp [World.mayDeliver, abreast.present, phase, Phase.isOver]
      · simp [World.mayDeliver, abreast.presentToo, phase, Phase.isOver]
  | _ => simp [phase, Phase.hasLeft, Phase.isOver] at left

theorem ofEndingLast {leaver : Worker Item}
    (behind : Behind topic leaver worker [.ended] world other)
    (phase : leaver.phase = .finished) (phaseToo : worker.phase = .ending) :
    Concluding source topic world other := by
  refine before ?_ (World.clockTurn behind.presentToo behind.unorderedToo)
  obtain ⟨rests, ends, matching⟩ := behind.catchesUp phase phaseToo
  rw [rests, ends]
  exact ofSilent (by simp [World.mayDeliver, behind.present, phase, Phase.isOver]) rfl matching

theorem ofClosingLast {leaver : Worker Item} {number : Nat}
    (behind : Behind topic leaver worker [.closed number] world other)
    (phase : leaver.phase = .ending) (phaseToo : worker.phase = .leaving (some number)) :
    Concluding source topic world other :=
  before (ofEndingLast (behind.closes phase phaseToo) rfl rfl)
    (World.clockTurn behind.presentToo behind.unorderedToo)

/-- Whoever is behind on the way out still comes to its end. -/
theorem ofBehind {leaver : Worker Item} {missing : List (Happening Item)}
    (behind : Behind topic leaver worker missing world other) :
    Concluding source topic world other := by
  have lag := behind.lag
  cases lag with
  | looking phase phaseToo =>
      exact before (ofClosingLast (behind.announces phase phaseToo) rfl rfl)
        (World.clockTurn behind.presentToo behind.unorderedToo)
  | closing phase phaseToo => exact ofClosingLast behind phase phaseToo
  | ending phase phaseToo => exact ofEndingLast behind phase phaseToo

theorem ofTwins (twins : Twins topic world other) (left : world.inLoop = false) :
    Concluding source topic world other := by
  cases twins with
  | abreast abreast =>
      rw [World.inLoop, abreast.present] at left
      exact ofAbreast abreast (by simpa using left)
  | behind behind => exact ofBehind behind
  | ended silent silentToo matching => exact ofSilent silent silentToo matching

end Concluding

namespace Matching

variable {first second : World State Item} {missing absent : List (Happening Item)}

/-- Two worlds that agree with the same third one agree with each other. -/
theorem between (matching : Matching topic world first missing)
    (otherMatching : Matching topic world second absent)
    (equally : missing.length = absent.length) : Matching topic first second [] := by
  have deeds := matching.deeds.symm.trans otherMatching.deeds
  refine ⟨matching.attempts.symm.trans otherMatching.attempts,
    matching.received.symm.trans otherMatching.received, ?_, ?_, nofun⟩
  · rw [List.append_nil]
    exact (List.append_inj' deeds equally).1
  · intro counter own
    exact (matching.counters counter own).symm.trans (otherMatching.counters counter own)

end Matching

/-- Nobody can tell from the conduct of the worker what its consumer did. -/
structure Isolated (source : Source State Item) (topic : String) (first second : World State Item) :
    Prop where
  /-- Attempts, what the subscriptions gave and the counters are the same at every moment. -/
  always : first.attempts = second.attempts ∧ first.received = second.received ∧
    ∀ counter ∈ feedlessCounters topic,
      first.metrics.count counter = second.metrics.count counter
  /-- The conduct is the same as long as both go on and also after both have ended. -/
  alike : first.inLoop = true ∧ second.inLoop = true ∨
    first.mayDeliver = false ∧ second.mayDeliver = false → SameConduct topic first second
  /-- If one has left its loop, both come to their ends with this turn, and the conduct is the
  same. -/
  behind : first.inLoop = false → (second.mayDeliver = true →
      second.coordinator.signalArrives = true) ∧
    ∃ final last, (∀ other, Turn source first other ↔ other = final) ∧
      (∀ other, Turn source second other ↔ other = last) ∧
      final.mayDeliver = false ∧ last.mayDeliver = false ∧ final.clock = first.clock ∧
      last.clock = second.clock ∧ SameConduct topic final last

/-- Two worlds beside the same world without a consumer are isolated from their consumers. -/
theorem Twins.isolated {first second : World State Item} (twins : Twins topic world first)
    (otherTwins : Twins topic world second) : Isolated source topic first second := by
  obtain ⟨missing, matching, inLoop, silent⟩ := twins.gap
  obtain ⟨absent, otherMatching, inLoopToo, silentToo⟩ := otherTwins.gap
  refine ⟨⟨?_, ?_, fun counter own => ?_⟩, fun standing => ?_, fun left => ⟨?_, ?_⟩⟩
  · exact matching.attempts.symm.trans otherMatching.attempts
  · exact matching.received.symm.trans otherMatching.received
  · exact (matching.counters counter own).symm.trans (otherMatching.counters counter own)
  · refine (matching.between otherMatching ?_).conduct
    rcases standing with ⟨inside, insideToo⟩ | ⟨left, leftToo⟩
    · rw [inLoop inside, inLoopToo insideToo]
    · rw [silent left, silentToo leftToo]
  · exact otherTwins.heard (twins.ahead left)
  · have concluding : Concluding source topic _ _ := .ofTwins twins (twins.ahead left)
    have otherConcluding : Concluding source topic _ _ := .ofTwins otherTwins (twins.ahead left)
    obtain ⟨final, last, turns, turnsFirst, ended, clock, same⟩ := concluding
    obtain ⟨other, lastToo, turnsToo, turnsSecond, endedToo, clockToo, sameToo⟩ := otherConcluding
    obtain rfl := (turnsToo final).mp ((turns final).mpr rfl)
    exact ⟨last, lastToo, turnsFirst, turnsSecond, ended, endedToo, clock, clockToo,
      (same.between sameToo rfl).conduct⟩

/-- What the consumer does is no business of a worker whose feed has no bound, and a consumer that
leaves any feed sets the worker free and costs it one warning. -/
theorem consumerIsIsolated :
    (∀ (idle : World State Item) (topic : String) (policy : RetryPolicy)
      (first second : List (Occurrence State)), unattended first = unattended second →
      Isolated source topic ((idle.spawn topic policy 0).live source first)
        ((idle.spawn topic policy 0).live source second)) ∧
    ∀ (capacity : Nat) (world : World State Item) (worker : Worker Item),
      Reachable source remote capacity world → world.worker = some worker →
      FeedLeft source remote worker world := by
  refine ⟨fun idle topic policy first second same => ?_, fun _ _ _ reached present =>
    reached.feedLeft present⟩
  have twins (schedule : List (Occurrence State)) :=
    (Twins.start idle topic policy).live source schedule
  have firstTwins := twins first
  rw [same] at firstTwins
  exact firstTwins.isolated (twins second)

/-- A worker may start whose source delivers three items at once. -/
def unspoken : World (Script Nat) Nat :=
  { source := { plan := [{ verdict := .opened [7, 8, 9] none }] } }

/-- The signal comes when the last item is received and not yet given to the feed. -/
def listening : List (Occurrence (Script Nat)) :=
  List.replicate 7 .turn ++ [.act .trigger] ++ List.replicate 3 .turn

/-- The same happens to a consumer that takes one item and leaves. -/
def walkingOut : List (Occurrence (Script Nat)) :=
  List.replicate 4 .turn ++ [.take, .leave] ++ List.replicate 3 .turn ++ [.act .trigger] ++
    List.replicate 3 .turn

/-- The worker whose consumer left ends one step later and has closed its subscription at the same
time, and a worker that waits for room in its feed warns once and goes on. -/
theorem consumerIsIsolatedAbandoned :
    (∃ last, Turn Script.source
        ((unspoken.spawn "heads" .immediate 0).live Script.source walkingOut) last ∧
      SameConduct "heads" ((unspoken.spawn "heads" .immediate 0).live Script.source listening)
        last ∧ last.closed = [0]) ∧
    ∃ next later, (strained.settle Script.source.noting).dropFeed.step Script.source.noting =
        some next ∧ next.worker = some later ∧ later.phase = .watching 0 ∧
      next.warnings "heads" ≤ 1 := by
  obtain ⟨unheard, _⟩ := @consumerIsIsolated _ _ Script.source Eq
  obtain ⟨_, leaves⟩ := @consumerIsIsolated _ _ Script.source.noting (Noting Eq)
  constructor
  · have isolated := unheard unspoken "heads" .immediate listening walkingOut rfl
    obtain ⟨_, final, last, turns, turnsToo, _, _, _, _, same⟩ := isolated.behind (by decide)
    have rests : Turn Script.source
        ((unspoken.spawn "heads" .immediate 0).live Script.source listening) _ := .rest rfl
    obtain rfl := (turns _).mp rests
    exact ⟨last, (turnsToo last).mpr rfl, same, same.closed.symm.trans (by decide)⟩
  · have attends (clock : Nat) (noted : Noted (Script Nat) Nat) :
        Noting Eq noted (Script.source.noting.attend clock noted) := ⟨rfl, rfl⟩
    have reached : Reachable Script.source.noting (Noting Eq) 1
        (strained.settle Script.source.noting) :=
      .run (.start rfl .new "heads" .immediate) (.settle attends strained)
    have left := leaves 1 (strained.settle Script.source.noting) _ reached rfl
    obtain ⟨next, later, stepped, there, watching, _⟩ := left.resumes _ _ _ rfl (by decide)
    exact ⟨next, later, stepped, there, watching,
      left.warnsOnce next (.single (.work stepped))⟩

end NodeBridge.Observer
