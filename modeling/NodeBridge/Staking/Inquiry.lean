import NodeBridge.Event
import NodeBridge.Staking.Error
import NodeBridge.Staking.Query

/-
This file describes readings that ask contracts and report what they see.
Who answers the queries is left open, so a statement about a reading holds for all who answer.
-/

namespace NodeBridge.Staking

/-- An inquiry ends with a value, reports an event or waits for the answer to a query. -/
inductive Inquiry (A : Type) where
  | done (value : A)
  | report (event : Event) (next : Inquiry A)
  | ask (query : Query) (next : Except Failure query.Answer → Inquiry A)

namespace Inquiry

def bind {A B : Type} : Inquiry A → (A → Inquiry B) → Inquiry B
  | done value, continuation => continuation value
  | report event next, continuation => report event (next.bind continuation)
  | ask query next, continuation => ask query fun answer => (next answer).bind continuation

instance : Monad Inquiry where
  pure := done
  bind := bind

/-- The course of an inquiry keeps the queries and the events in their order. -/
structure Course (State : Type) where
  state : State
  asked : List Query := []
  events : List Event := []

/-- Someone who answers queries may change a state with every answer. -/
abbrev Responder (State : Type) := (query : Query) → StateM State (Except Failure query.Answer)

/-- The queries are answered one after the other until the value is there. -/
def run {State A : Type} (respond : Responder State) : Inquiry A → StateM (Course State) A
  | done value => pure value
  | report event next => do
      modify fun course => { course with events := course.events ++ [event] }
      next.run respond
  | ask query next => fun course =>
      let (answer, state) := respond query course.state
      (next answer).run respond { course with state, asked := course.asked ++ [query] }

end Inquiry

/-- A reading is an inquiry that may fail. -/
abbrev Reading := ExceptT Failure Inquiry

namespace Reading

def query (query : Query) : Reading query.Answer := Inquiry.ask query Inquiry.done

def report (event : Event) : Reading Unit := Inquiry.report event (Inquiry.done (.ok ()))

/-- A failure is reported and then passed on. -/
def reporting {A : Type} (event : Failure → Event) (reading : Reading A) : Reading A :=
  tryCatch reading fun failure => do
    report (event failure)
    throw failure

end Reading

end NodeBridge.Staking
