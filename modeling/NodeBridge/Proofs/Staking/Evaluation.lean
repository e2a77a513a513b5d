import NodeBridge.Proofs.Staking.Conversation
import NodeBridge.Proofs.Staking.Encoding

/-
This file evaluates readings under contracts that answer every query.
A session in which every reply carries the value of a contract leads to the same outcome.
-/

namespace NodeBridge.Staking

/-- The contracts return a value for every query. -/
abbrev Contracts := (query : Query) → query.Returned

/-- A reply is in time, and its bytes are the value that the contract returns. -/
structure Carries (limit : Nat) (contracts : Contracts) (query : Query) (reply : Connection.Reply) :
    Prop where
  inTime : reply.due ≤ limit
  canonical : ∃ value, reply.outcome = .result value ∧
    Facade.bytesOf? value = some (query.encoding (contracts query))

namespace Inquiry

variable {A : Type} (contracts : Contracts)

/-- The contracts answer every query of an inquiry. -/
def value : Inquiry A → A
  | done value => value
  | report _ next => next.value
  | ask query next => (next (.ok (query.answer (contracts query)))).value

/-- These queries of an inquiry are asked if the contracts answer them. -/
def path : Inquiry A → List Query
  | done _ => []
  | report _ next => next.path
  | ask query next => query :: (next (.ok (query.answer (contracts query)))).path

variable {B : Type} {contracts}

theorem valueBind (first : Inquiry A) (next : A → Inquiry B) :
    (first.bind next).value contracts = (next (first.value contracts)).value contracts := by
  induction first with
  | done value => rfl
  | report event rest inductionHypothesis => exact inductionHypothesis
  | ask query rest inductionHypothesis => exact inductionHypothesis _

theorem pathBind (first : Inquiry A) (next : A → Inquiry B) :
    (first.bind next).path contracts =
      first.path contracts ++ (next (first.value contracts)).path contracts := by
  induction first with
  | done value => rfl
  | report event rest inductionHypothesis => exact inductionHypothesis
  | ask query rest inductionHypothesis => exact congrArg (query :: ·) (inductionHypothesis _)

end Inquiry

namespace Reading

variable {A B : Type} (contracts : Contracts)

/-- The contracts lead a reading to this outcome. -/
def outcome (reading : Reading A) : Except Failure A := Inquiry.value contracts reading

/-- These queries of a reading are asked if the contracts answer them. -/
def path (reading : Reading A) : List Query := Inquiry.path contracts reading

variable {contracts}

@[simp] theorem okBind (value : A) (next : A → Except Failure B) :
    (Except.ok value >>= next) = next value := rfl

@[simp] theorem outcomePure (value : A) : outcome contracts (pure value) = .ok value := rfl

@[simp] theorem pathPure (value : A) : path contracts (pure value) = [] := rfl

@[simp] theorem outcomeLift (result : Except Failure A) :
    outcome contracts (liftM result) = result := by
  cases result <;> rfl

@[simp] theorem pathLift (result : Except Failure A) : path contracts (liftM result) = [] := by
  cases result <;> rfl

-- The type of an answer depends on the query, so it cannot guide the search for these two rules.
@[simp] theorem outcomeQuery (asked : Query) :
    @outcome (no_index asked.Answer) contracts (query asked) =
      .ok (asked.answer (contracts asked)) := rfl

@[simp] theorem pathQuery (asked : Query) :
    @path (no_index asked.Answer) contracts (query asked) = [asked] := rfl

@[simp] theorem outcomeReport (event : Event) : outcome contracts (report event) = .ok () := rfl

@[simp] theorem pathReport (event : Event) : path contracts (report event) = [] := rfl

@[simp] theorem outcomeBind (first : Reading A) (next : A → Reading B) :
    outcome contracts (first >>= next) =
      outcome contracts first >>= fun value => outcome contracts (next value) := by
  change Inquiry.value contracts (Inquiry.bind first (ExceptT.bindCont next)) = _
  rw [Inquiry.valueBind, outcome]
  cases Inquiry.value contracts first <;> rfl

/-- A reading goes on after its first part only if that part has a value. -/
@[simp] theorem pathBind (first : Reading A) (next : A → Reading B) :
    path contracts (first >>= next) = path contracts first ++
      match outcome contracts first with
      | .ok value => path contracts (next value)
      | .error _ => [] := by
  change Inquiry.path contracts (Inquiry.bind first (ExceptT.bindCont next)) = _
  rw [Inquiry.pathBind, outcome, path]
  cases Inquiry.value contracts first <;> rfl

@[simp] theorem outcomeCatch (reading : Reading A) (handle : Failure → Reading A) :
    outcome contracts (tryCatch reading handle) =
      match outcome contracts reading with
      | .ok value => .ok value
      | .error failure => outcome contracts (handle failure) := by
  rw [outcome, catchWhole, Inquiry.valueBind, outcome]
  cases Inquiry.value contracts reading <;> rfl

@[simp] theorem pathCatch (reading : Reading A) (handle : Failure → Reading A) :
    path contracts (tryCatch reading handle) = path contracts reading ++
      match outcome contracts reading with
      | .ok _ => []
      | .error failure => path contracts (handle failure) := by
  rw [path, catchWhole, Inquiry.pathBind, outcome, path]
  cases Inquiry.value contracts reading <;> rfl

@[simp] theorem outcomeReporting (event : Failure → Event) (reading : Reading A) :
    outcome contracts (reporting event reading) = outcome contracts reading := by
  rw [reporting, outcomeCatch]
  cases outcome contracts reading <;> rfl

@[simp] theorem pathReporting (event : Failure → Event) (reading : Reading A) :
    path contracts (reporting event reading) = path contracts reading := by
  rw [reporting, pathCatch]
  cases outcome contracts reading <;> exact List.append_nil _

end Reading

namespace Facade

variable {facade : Facade} {contracts : Contracts} {A : Type} {address : Address}

/-- A reply that carries a value is understood. -/
theorem carried {query : Query} {before after : Session} {answer : Except Failure query.Answer}
    (known : facade.target query = .ok address)
    (carries : Carries facade.limit contracts query before.exchange.next)
    (answers : Answers facade query before answer after) :
    answer = .ok (query.answer (contracts query)) ∧
      after.exchange.replies = before.exchange.replies.tail ∧
      after.exchange.requests = before.exchange.requests ++ [request address query] := by
  obtain ⟨inTime, value, received, canonical⟩ := carries
  have readable : interpret query value = .ok (query.answer (contracts query)) := by
    simp only [interpret, canonical, Query.decodeEncoding]
  cases answers with
  | unset unknown =>
      rw [known] at unknown
      contradiction
  | sent elapsed found settles ends exchange counted =>
      obtain rfl := Except.ok.inj (known.symm.trans found)
      refine ⟨?_, by rw [exchange], by rw [exchange]⟩
      cases settles with
      | answered _ got read =>
          obtain rfl := Connection.Outcome.result.inj (received.symm.trans got)
          exact congrArg Except.ok (Except.ok.inj (read.symm.trans readable))
      | unreadable _ got unread =>
          obtain rfl := Connection.Outcome.result.inj (received.symm.trans got)
          rw [readable] at unread
          contradiction
      | refused _ got | broken _ got =>
          rw [received] at got
          contradiction
      | late overdue => exact absurd inTime (not_le_of_gt overdue)

/-- A session in which every reply carries its value leads to the value of the inquiry. -/
theorem runCarried (inquiry : Inquiry A) {replies rest : List Connection.Reply}
    (course : Inquiry.Course Session)
    (known : ∀ query ∈ inquiry.path contracts, facade.target query = .ok address)
    (waiting : course.state.exchange.replies = replies ++ rest)
    (carry : List.Forall₂ (Carries facade.limit contracts) (inquiry.path contracts) replies) :
    (inquiry.run facade.respond course).1 = inquiry.value contracts ∧
      (inquiry.run facade.respond course).2.state.exchange.requests =
        course.state.exchange.requests ++ (inquiry.path contracts).map (request address) := by
  induction inquiry generalizing course replies with
  | done value => exact ⟨rfl, (List.append_nil _).symm⟩
  | report event next inductionHypothesis =>
      exact inductionHypothesis { course with events := course.events ++ [event] } known waiting
        carry
  | ask query next inductionHypothesis =>
      obtain ⟨here, later⟩ := List.forall_mem_cons.mp known
      cases carry with
      | @cons _ reply _ others first carryOn =>
          have isNext : course.state.exchange.next = reply := by
            rw [Connection.Exchange.next, waiting]
            rfl
          obtain ⟨answered, remaining, sent⟩ :=
            carried here (isNext ▸ first) (facade.respondAnswers query course.state)
          rw [Inquiry.runAsk, answered]
          obtain ⟨value, requests⟩ := inductionHypothesis _
            ⟨(facade.respond query course.state).2, course.asked ++ [query], course.events⟩
            later (remaining.trans (by rw [waiting]; rfl)) carryOn
          refine ⟨value, requests.trans ?_⟩
          rw [sent, List.append_assoc]
          rfl

end Facade

end NodeBridge.Staking
