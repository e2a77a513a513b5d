import Mathlib.Data.ENat.Lattice
import NodeBridge.Proofs.Staking.Asking
import NodeBridge.Proofs.Staking.Reporting
import NodeBridge.Staking.Facade

/-
This file follows the requests that go to a node while one reading is taken after the other.
A request ends with its reply or at the limit, whichever comes first, and the counters of failed
calls agree with the requests that failed.
-/

namespace NodeBridge.Connection

/-- A reply that never comes is due after any time. -/
def Reply.due (reply : Reply) : ℕ∞ :=
  match reply.outcome with
  | .silent => ⊤
  | _ => reply.delay

namespace Exchange

/-- This is the reply that the next request gets. -/
def next (exchange : Exchange) : Reply := exchange.replies.headD ⟨exchange.missing, 0⟩

/-- A request ends when its reply is due, but not after the limit. -/
theorem waitingDue (limit : Nat) (reply : Reply) :
    (waiting limit reply : ℕ∞) = min reply.due limit := by
  rw [waiting, Reply.due]
  cases reply.outcome with
  | silent => exact (min_eq_right le_top).symm
  | result | refused | broken => exact Nat.mono_cast.map_min

/-- A reply arrives if it is due no later than the limit. -/
theorem arrivalCases (limit : Nat) (reply : Reply) :
    (limit < reply.due ∧ arrival limit reply = .error .late) ∨
      reply.due ≤ limit ∧
        ((∃ value, reply.outcome = .result value ∧ arrival limit reply = .ok value) ∨
          (∃ code message data, reply.outcome = .refused code message data ∧
            arrival limit reply = .error (.failed (refusal code message data))) ∨
          ∃ reason, reply.outcome = .broken reason ∧
            arrival limit reply = .error (.failed reason)) := by
  rw [arrival, Reply.due]
  by_cases overdue : limit < reply.delay
  · rw [if_pos overdue]
    left
    cases reply.outcome with
    | silent => exact ⟨ENat.natCast_lt_top limit, rfl⟩
    | result | refused | broken => exact ⟨Nat.cast_lt.mpr overdue, rfl⟩
  · rw [if_neg overdue]
    have inTime : (reply.delay : ℕ∞) ≤ limit := Nat.cast_le.mpr (Nat.le_of_not_lt overdue)
    cases reply.outcome with
    | silent => exact .inl ⟨ENat.natCast_lt_top limit, rfl⟩
    | result value => exact .inr ⟨inTime, .inl ⟨value, rfl, rfl⟩⟩
    | refused code message data => exact .inr ⟨inTime, .inr (.inl ⟨code, message, data, rfl, rfl⟩)⟩
    | broken reason => exact .inr ⟨inTime, .inr (.inr ⟨reason, rfl, rfl⟩)⟩

theorem callNext (limit : Nat) (request : Request) (exchange : Exchange) :
    call limit request exchange = (arrival limit exchange.next, {
      clock := exchange.clock + waiting limit exchange.next
      replies := exchange.replies.tail
      missing := exchange.missing
      requests := exchange.requests ++ [request] }) := by
  obtain ⟨clock, replies, missing, requests⟩ := exchange
  cases replies <;> rfl

end Exchange

end NodeBridge.Connection

namespace NodeBridge.Staking

open Inquiry (Turn Linked run)

/-- These failures are failures of a request. -/
def Failure.isCall : Failure → Bool
  | .call _ _ => true
  | .timeout _ _ => true
  | .malformed _ => false
  | .notConfigured _ => false

/-- A request failed if its answer says so. -/
def failedCall {query : Query} : Except Failure query.Answer → Bool
  | .ok _ => false
  | .error failure => failure.isCall

namespace Facade

variable {facade : Facade} {query : Query} {before after : Session}

/-- A reply counts if it is due no later than the limit, and otherwise the request is given up. -/
inductive Settles (facade : Facade) (query : Query) (reply : Connection.Reply) :
    Except Failure query.Answer → Prop where
  | answered {value : Json} {answer : query.Answer} (inTime : reply.due ≤ facade.limit)
      (received : reply.outcome = .result value) (readable : interpret query value = .ok answer) :
      Settles facade query reply (.ok answer)
  | unreadable {value : Json} {reason : String} (inTime : reply.due ≤ facade.limit)
      (received : reply.outcome = .result value)
      (unreadable : interpret query value = .error reason) :
      Settles facade query reply (.error (.call query.method reason))
  | refused {code : Int} {message : String} {data : Option Json}
      (inTime : reply.due ≤ facade.limit) (received : reply.outcome = .refused code message data) :
      Settles facade query reply
        (.error (.call query.method (Connection.refusal code message data)))
  | broken {reason : String} (inTime : reply.due ≤ facade.limit)
      (received : reply.outcome = .broken reason) :
      Settles facade query reply (.error (.call query.method reason))
  | late (overdue : facade.limit < reply.due) :
      Settles facade query reply (.error (.timeout query.method facade.callTimeout.toNat))

/-- A query whose contract is not set changes nothing. Any other query is sent and takes the next
reply, the clock moves on until the request ends, and a request that fails is counted once. -/
inductive Answers (facade : Facade) (query : Query) (before : Session) :
    Except Failure query.Answer → Session → Prop where
  | unset {contract : String} (unknown : facade.target query = .error (.notConfigured contract)) :
      Answers facade query before (.error (.notConfigured contract)) before
  | sent {address : Address} {answer : Except Failure query.Answer} {after : Session}
      (elapsed : Nat) (known : facade.target query = .ok address)
      (settles : Settles facade query before.exchange.next answer)
      (ends : (elapsed : ℕ∞) = min before.exchange.next.due facade.limit)
      (exchange : after.exchange = {
        clock := before.exchange.clock + elapsed
        replies := before.exchange.replies.tail
        missing := before.exchange.missing
        requests := before.exchange.requests ++ [request address query] })
      (counted : ∀ metric, after.metrics.count metric = before.metrics.count metric +
        if failedCall answer ∧ metric = .callFailures query.method then 1 else 0) :
      Answers facade query before answer after

theorem targetCases (facade : Facade) (query : Query) :
    (∃ address, facade.target query = .ok address) ∨
      ∃ contract, facade.target query = .error (.notConfigured contract) := by
  rw [target]
  cases query.contract with
  | staking => exact .inl ⟨_, rfl⟩
  | tokenizer => cases facade.tokenizer <;> simp
  | minter => cases facade.defi.minter <;> simp

theorem targetOfContract {other : Query} (same : query.contract = other.contract) :
    facade.target query = facade.target other := by
  rw [target, target, same]

/-- The facade gives such answers. -/
theorem respondAnswers (facade : Facade) (query : Query) (before : Session) :
    Answers facade query before (facade.respond query before).1
      (facade.respond query before).2 := by
  obtain ⟨address, known⟩ | ⟨contract, unknown⟩ := facade.targetCases query
  · have ends := Connection.Exchange.waitingDue facade.limit before.exchange.next
    have uncounted (metric : Metric) :
        before.metrics.count metric = before.metrics.count metric + 0 := rfl
    have counted (failure : Failure) (isCall : failure.isCall = true) (metric : Metric) :
        (before.metrics.increment (.callFailures query.method)).count metric =
          before.metrics.count metric +
            if failedCall (.error failure : Except Failure query.Answer) ∧
              metric = .callFailures query.method then 1 else 0 := by
      rw [Metrics.countIncrement]
      simp [failedCall, isCall]
    simp only [respond, known, Connection.Exchange.callNext]
    obtain ⟨overdue, arrived⟩ | ⟨inTime, ⟨value, received, arrived⟩ |
      ⟨code, message, data, received, arrived⟩ | ⟨reason, received, arrived⟩⟩ :=
      Connection.Exchange.arrivalCases facade.limit before.exchange.next
    · rw [arrived]
      exact .sent _ known (.late overdue) ends rfl (counted _ rfl)
    · rw [arrived]
      dsimp only
      cases readable : interpret query value with
      | ok answer => exact .sent _ known (.answered inTime received readable) ends rfl uncounted
      | error reason =>
          exact .sent _ known (.unreadable inTime received readable) ends rfl (counted _ rfl)
    · rw [arrived]
      exact .sent _ known (.refused inTime received) ends rfl (counted _ rfl)
    · rw [arrived]
      exact .sent _ known (.broken inTime received) ends rfl (counted _ rfl)
  · simp only [respond, unknown]
    exact .unset unknown

theorem answersOfResponds {answer : Except Failure query.Answer}
    (responds : facade.respond query before = (answer, after)) :
    Answers facade query before answer after := by
  have answers := facade.respondAnswers query before
  rwa [responds] at answers

/-- A request of this query failed, and its failure names the method. -/
def FailedFor (facade : Facade) (query : Query) (failure : Failure) : Prop :=
  (∃ reason, failure = .call query.method reason) ∨
    failure = .timeout query.method facade.callTimeout.toNat

/-- A failure that is an answer tells whether a request failed or the contract is not set. -/
theorem failureCases {failure : Failure}
    (answers : Answers facade query before (.error failure) after) :
    facade.FailedFor query failure ∨
      ∃ contract, failure = .notConfigured contract ∧
        facade.target query = .error (.notConfigured contract) := by
  cases answers with
  | unset unknown => exact .inr ⟨_, rfl, unknown⟩
  | sent elapsed known settles =>
      cases settles with
      | unreadable | refused | broken => exact .inl (.inl ⟨_, rfl⟩)
      | late => exact .inl (.inr rfl)

end Facade

/-- The turn was a request that failed, and it belongs to this metric. -/
def Inquiry.Turn.isCounted {State : Type} (metric : Metric) (turn : Turn State) : Bool :=
  failedCall turn.answer && metric = .callFailures turn.query.method

/-- A failed request is counted here. -/
def Failure.metric? : Failure → Option Metric
  | .call method _ => some (.callFailures method)
  | .timeout method _ => some (.callFailures method)
  | .malformed _ => none
  | .notConfigured _ => none

namespace Facade

variable {facade : Facade} {query : Query} {before after : Session} {turns : List (Turn Session)}

/-- Every turn on the way is such an answer. -/
theorem linkedAnswers (linked : Linked facade.respond before turns after) :
    ∀ turn ∈ turns, Answers facade turn.query turn.before turn.answer turn.after := by
  induction linked with
  | nil state => exact fun _ absent => absurd absent List.not_mem_nil
  | cons responds rest inductionHypothesis =>
      exact List.forall_mem_cons.mpr ⟨answersOfResponds responds, inductionHypothesis⟩

/-- Each request that failed was counted once under its method, and nothing else was counted. -/
theorem linkedCounts (linked : Linked facade.respond before turns after) (metric : Metric) :
    after.metrics.count metric =
      before.metrics.count metric + turns.countP (Turn.isCounted metric) := by
  induction linked with
  | nil state => rfl
  | cons responds rest inductionHypothesis =>
      rw [inductionHypothesis, List.countP_cons]
      cases answersOfResponds responds with
      | unset unknown => simp [Turn.isCounted, failedCall, Failure.isCall]
      | sent elapsed known settles ends exchange counted =>
          rw [counted metric]
          simp only [Turn.isCounted, Bool.and_eq_true, decide_eq_true_eq]
          omega

/-- Nothing happens as long as the contracts are not set. -/
theorem linkedUntouched (linked : Linked facade.respond before turns after)
    (unknown : ∀ turn ∈ turns, ∃ failure, facade.target turn.query = .error failure) :
    after = before := by
  induction linked with
  | nil state => rfl
  | cons responds rest inductionHypothesis =>
      obtain ⟨⟨failure, refused⟩, others⟩ := List.forall_mem_cons.mp unknown
      rw [inductionHypothesis others]
      cases answersOfResponds responds with
      | unset => rfl
      | sent elapsed known =>
          rw [known] at refused
          contradiction

/-- Every query was sent to its contract. -/
theorem linkedRequests {address : Address} (linked : Linked facade.respond before turns after)
    (known : ∀ turn ∈ turns, facade.target turn.query = .ok address) :
    after.exchange.requests =
      before.exchange.requests ++ turns.map (fun turn => request address turn.query) := by
  induction linked with
  | nil state => exact (List.append_nil _).symm
  | cons responds rest inductionHypothesis =>
      obtain ⟨here, others⟩ := List.forall_mem_cons.mp known
      rw [inductionHypothesis others]
      cases answersOfResponds responds with
      | unset unknown =>
          rw [unknown] at here
          contradiction
      | sent elapsed found settles ends exchange counted =>
          obtain rfl := Except.ok.inj (found.symm.trans here)
          rw [exchange, List.append_assoc]
          rfl

/-- The counters can be read off the failures. -/
theorem countedFailures (linked : Linked facade.respond before turns after) (metric : Metric) :
    turns.countP (Turn.isCounted metric) =
      (failures (turns.map Turn.note)).countP fun failure => failure.metric? = some metric := by
  rw [failures, List.filterMap_map, List.countP_filterMap]
  refine List.countP_congr fun turn member => ?_
  have answers := linkedAnswers linked turn member
  obtain ⟨query, answer, before, after⟩ := turn
  cases answer with
  | ok value => exact Iff.rfl
  | error failure =>
      change Answers facade query before (.error failure) after at answers
      obtain (⟨reason, rfl⟩ | rfl) | ⟨contract, rfl, _⟩ := failureCases answers
      · simp [Turn.isCounted, failedCall, Failure.isCall, Turn.note, Note.failure?, Failure.metric?,
          eq_comm]
      · simp [Turn.isCounted, failedCall, Failure.isCall, Turn.note, Note.failure?, Failure.metric?,
          eq_comm]
      · simp [Turn.isCounted, failedCall, Failure.isCall, Turn.note, Note.failure?, Failure.metric?]

/-- The counters stay as they are. -/
def Keeps (before after : Session) : Prop :=
  ∀ metric, after.metrics.count metric = before.metrics.count metric

/-- One counter goes up by one, and the others stay as they are. -/
def Adds (metric : Metric) (before after : Session) : Prop :=
  ∀ other, after.metrics.count other =
    before.metrics.count other + if other = metric then 1 else 0

/-- A visit to the contracts takes one reading. -/
structure Visit where
  accessor : Accessor
  result : Except Failure accessor.Result
  turns : List (Turn Session)
  before : Session
  after : Session

/-- The failures of the requests and the outcome of a reading agree with the counters. -/
inductive Visit.Accounts (facade : Facade) : Visit → Prop where
  | value {accessor : Accessor} {value : accessor.Result} {turns : List (Turn Session)}
      {before after : Session} (sound : failures (turns.map Turn.note) = [])
      (kept : Keeps before after) : Accounts facade ⟨accessor, .ok value, turns, before, after⟩
  | malformed {accessor : Accessor} {cause : Malformation} {turns : List (Turn Session)}
      {before after : Session} (sound : failures (turns.map Turn.note) = [])
      (kept : Keeps before after) :
      Accounts facade ⟨accessor, .error (.malformed cause), turns, before, after⟩
  | unset {accessor : Accessor} {contract : String} {turns : List (Turn Session)}
      {session : Session} :
      Accounts facade ⟨accessor, .error (.notConfigured contract), turns, session, session⟩
  | failed {accessor : Accessor} {query : Query} {failure : Failure} {turns : List (Turn Session)}
      {before after : Session} (member : query ∈ accessor.queries)
      (failed : facade.FailedFor query failure)
      (single : failures (turns.map Turn.note) = [failure])
      (added : Adds (.callFailures query.method) before after) :
      Accounts facade ⟨accessor, .error failure, turns, before, after⟩
  | hidden {delegator : Address} {validator : Word} {failure : Failure}
      {turns : List (Turn Session)} {before after : Session}
      (failed : facade.FailedFor (.pendingRewards delegator validator) failure)
      (single : failures (turns.map Turn.note) = [failure])
      (added : Adds (.callFailures "pendingRewards") before after) :
      Accounts facade
        ⟨.pendingRewards delegator validator, .ok ⟨delegator, validator, 0⟩, turns, before, after⟩

/-- A single reading is taken. -/
def visit (facade : Facade) (accessor : Accessor) (session : Session) : Visit :=
  let reading := accessor.reading facade.defi
  let (result, course) := run facade.respond reading ⟨session, [], []⟩
  ⟨accessor, result, reading.turns facade.respond session, session, course.state⟩

/-- One reading is taken after the other, and the session goes on. -/
def visits (facade : Facade) : List Accessor → Session → List Visit × Session
  | [], session => ([], session)
  | accessor :: rest, session =>
      let visit := facade.visit accessor session
      let (visits, final) := facade.visits rest visit.after
      (visit :: visits, final)

theorem keepsOfSound (linked : Linked facade.respond before turns after)
    (sound : failures (turns.map Turn.note) = []) : Keeps before after := by
  intro metric
  rw [linkedCounts linked, countedFailures linked, sound]
  rfl

theorem addsOfSingle {failure : Failure} (linked : Linked facade.respond before turns after)
    (single : failures (turns.map Turn.note) = [failure])
    (failed : facade.FailedFor query failure) :
    Adds (.callFailures query.method) before after := by
  have metric : failure.metric? = some (.callFailures query.method) := by
    obtain ⟨reason, rfl⟩ | rfl := failed <;> rfl
  intro other
  rw [linkedCounts linked, countedFailures linked, single, List.countP_singleton, metric]
  simp [eq_comm]

/-- A failure belongs to one of the turns. -/
theorem turnOfFailure {failure : Failure} (linked : Linked facade.respond before turns after)
    (single : failures (turns.map Turn.note) = [failure]) :
    ∃ turn ∈ turns, facade.FailedFor turn.query failure ∨
      ∃ contract, failure = .notConfigured contract ∧
        facade.target turn.query = .error (.notConfigured contract) := by
  have present : failure ∈ failures (turns.map Turn.note) := by
    rw [single]
    exact List.mem_singleton_self failure
  rw [failures, List.filterMap_map] at present
  obtain ⟨turn, member, answered⟩ := List.mem_filterMap.mp present
  refine ⟨turn, member, ?_⟩
  have answers := linkedAnswers linked turn member
  obtain ⟨query, answer, before, after⟩ := turn
  cases answer with
  | ok value => contradiction
  | error other =>
      obtain rfl := Option.some.inj answered
      exact failureCases answers

/-- If a reading ends because its contract is not set, nothing has happened. -/
theorem untouchedOfUnset {accessor : Accessor} {contract : String} {turn : Turn Session}
    (linked : Linked facade.respond before turns after)
    (members : ∀ turn ∈ turns, turn.query ∈ accessor.queries) (member : turn ∈ turns)
    (unknown : facade.target turn.query = .error (.notConfigured contract)) : after = before := by
  refine linkedUntouched linked fun other otherMember => ⟨.notConfigured contract, ?_⟩
  have same : other.query.contract = turn.query.contract :=
    (Accessor.contractOfQuery (members other otherMember)).trans
      (Accessor.contractOfQuery (members turn member)).symm
  rw [targetOfContract same, unknown]

/-- Whatever a reading ends with, the counters agree. -/
theorem accountsOfDialogue {accessor : Accessor} {result : Except Failure accessor.Result}
    {notes : List Note} (dialogue : Dialogue (accessor.reading facade.defi) notes result)
    (answers : notes.filter Note.isAnswer = turns.map Turn.note)
    (linked : Linked facade.respond before turns after) :
    Visit.Accounts facade ⟨accessor, result, turns, before, after⟩ := by
  have failed : failures (turns.map Turn.note) = failures notes := by
    rw [← answers, failuresOfAnswers]
  have members : ∀ turn ∈ turns, turn.query ∈ accessor.queries := by
    intro turn member
    apply (accessor.asks facade.defi notes result dialogue).1.subset
    rw [askedOfTurns answers]
    exact List.mem_map_of_mem member
  by_cases fallsBack : ∃ delegator validator, accessor = .pendingRewards delegator validator
  · obtain ⟨delegator, validator, rfl⟩ := fallsBack
    obtain ⟨amount, sound, _, rfl⟩ | ⟨failure, single, _, rfl⟩ := pendingRewardsConcludes dialogue
    · exact .value (failed.trans sound) (keepsOfSound linked (failed.trans sound))
    · obtain ⟨turn, member, failedFor | ⟨contract, _, unknown⟩⟩ :=
        turnOfFailure linked (failed.trans single)
      · rw [List.mem_singleton.mp (members turn member)] at failedFor
        exact .hidden failedFor (failed.trans single)
          (addsOfSingle linked (failed.trans single) failedFor)
      · rw [List.mem_singleton.mp (members turn member)] at unknown
        contradiction
  by_cases known : accessor.Known facade.defi
  · have passesOn : ∀ delegator validator, accessor ≠ .pendingRewards delegator validator :=
      fun delegator validator same => fallsBack ⟨delegator, validator, same⟩
    cases Accessor.concludes known passesOn _ _ dialogue with
    | value sound => exact .value (failed.trans sound) (keepsOfSound linked (failed.trans sound))
    | unfit sound =>
        exact .malformed (failed.trans sound) (keepsOfSound linked (failed.trans sound))
    | failed single =>
        obtain ⟨turn, member, failedFor | ⟨contract, rfl, unknown⟩⟩ :=
          turnOfFailure linked (failed.trans single)
        · exact .failed (members turn member) failedFor (failed.trans single)
            (addsOfSingle linked (failed.trans single) failedFor)
        · obtain rfl := untouchedOfUnset linked members member unknown
          exact .unset
  · obtain ⟨rfl, unknown⟩ := Classical.not_imp.mp known
    rw [Accessor.reading, defiSettingsUnset (not_not.mp unknown)] at dialogue
    obtain ⟨rfl, rfl⟩ := Reading.throwIff.mp dialogue
    obtain rfl := List.map_eq_nil_iff.mp answers.symm
    cases linked
    exact .unset

/-- A reading follows the turns of its session, and its account is right. -/
theorem visitAccounts (facade : Facade) (accessor : Accessor) (session : Session) :
    Linked facade.respond session (facade.visit accessor session).turns
        (facade.visit accessor session).after ∧
      (facade.visit accessor session).Accounts facade := by
  obtain ⟨notes, dialogue, _, _, answers⟩ :=
    Inquiry.runDialogue facade.respond (accessor.reading facade.defi) ⟨session, [], []⟩
  have linked := Inquiry.linked facade.respond (accessor.reading facade.defi) ⟨session, [], []⟩
  exact ⟨linked, accountsOfDialogue dialogue answers linked⟩

theorem linkedAppend {middle : Session} {later : List (Turn Session)}
    (first : Linked facade.respond before turns middle)
    (second : Linked facade.respond middle later after) :
    Linked facade.respond before (turns ++ later) after := by
  induction first with
  | nil state => exact second
  | cons responds rest inductionHypothesis => exact .cons responds (inductionHypothesis second)

theorem visitsLinked (facade : Facade) (accessors : List Accessor) (session : Session) :
    Linked facade.respond session ((facade.visits accessors session).1.flatMap Visit.turns)
      (facade.visits accessors session).2 := by
  induction accessors generalizing session with
  | nil => exact .nil session
  | cons accessor rest inductionHypothesis =>
      exact linkedAppend (facade.visitAccounts accessor session).1 (inductionHypothesis _)

/-- Every visit of a session is a visit to one of the contracts. -/
theorem visitsAccount (facade : Facade) (accessors : List Accessor) (session : Session) :
    List.Forall₂ (fun accessor visit => visit = facade.visit accessor visit.before ∧
      Linked facade.respond visit.before visit.turns visit.after ∧ visit.Accounts facade)
      accessors (facade.visits accessors session).1 := by
  induction accessors generalizing session with
  | nil => exact .nil
  | cons accessor rest inductionHypothesis =>
      exact .cons ⟨rfl, facade.visitAccounts accessor session⟩ (inductionHypothesis _)

/-- However long a session is and whatever the node sends, each request ends with its reply or at
the limit, and the counters say how many requests of each method failed. -/
theorem failuresAreCounted (facade : Facade) (accessors : List Accessor) (session : Session) :
    let (visits, final) := facade.visits accessors session
    let turns := visits.flatMap Visit.turns
    (∀ turn ∈ turns, Answers facade turn.query turn.before turn.answer turn.after) ∧
      Linked facade.respond session turns final ∧
      (∀ metric, final.metrics.count metric =
        session.metrics.count metric + turns.countP (Turn.isCounted metric)) ∧
      List.Forall₂ (fun accessor visit => visit = facade.visit accessor visit.before ∧
        Linked facade.respond visit.before visit.turns visit.after ∧ visit.Accounts facade)
        accessors visits := by
  have linked := facade.visitsLinked accessors session
  exact ⟨linkedAnswers linked, linked, linkedCounts linked, facade.visitsAccount accessors session⟩

end Facade

end NodeBridge.Staking
