import NodeBridge.Staking.Inquiry

/-
This file says what can be asked and reported on the way to the value of an inquiry.
Whoever answers the queries, a run takes one of these ways, and its turns follow each other.
-/

namespace NodeBridge.Staking

/-- What is asked comes with its answer, and what is reported stands for itself. -/
inductive Note where
  | answered (query : Query) (answer : Except Failure query.Answer)
  | reported (event : Event)

namespace Note

def query? : Note → Option Query
  | answered query _ => some query
  | reported _ => none

def event? : Note → Option Event
  | answered _ _ => none
  | reported event => some event

def isAnswer : Note → Bool
  | answered _ _ => true
  | reported _ => false

end Note

/-- These notes lead through an inquiry to its value. -/
inductive Dialogue {A : Type} : Inquiry A → List Note → A → Prop where
  | done (value : A) : Dialogue (.done value) [] value
  | report {event : Event} {next : Inquiry A} {notes : List Note} {value : A}
      (rest : Dialogue next notes value) :
      Dialogue (.report event next) (.reported event :: notes) value
  | ask {query : Query} {next : Except Failure query.Answer → Inquiry A}
      (answer : Except Failure query.Answer) {notes : List Note} {value : A}
      (rest : Dialogue (next answer) notes value) :
      Dialogue (.ask query next) (.answered query answer :: notes) value

namespace Dialogue

variable {A B : Type} {notes : List Note} {value : A}

theorem doneIff {other : A} : Dialogue (.done value) notes other ↔ notes = [] ∧ other = value := by
  constructor
  · rintro ⟨⟩
    exact ⟨rfl, rfl⟩
  · rintro ⟨rfl, rfl⟩
    exact .done _

theorem reportIff {event : Event} {next : Inquiry A} :
    Dialogue (.report event next) notes value ↔
      ∃ rest, notes = .reported event :: rest ∧ Dialogue next rest value := by
  constructor
  · rintro ⟨⟩
    exact ⟨_, rfl, by assumption⟩
  · rintro ⟨rest, rfl, dialogue⟩
    exact .report dialogue

theorem askIff {query : Query} {next : Except Failure query.Answer → Inquiry A} :
    Dialogue (.ask query next) notes value ↔
      ∃ answer rest, notes = .answered query answer :: rest ∧
        Dialogue (next answer) rest value := by
  constructor
  · rintro ⟨⟩
    exact ⟨_, _, rfl, by assumption⟩
  · rintro ⟨answer, rest, rfl, dialogue⟩
    exact .ask answer dialogue

/-- A dialogue through two inquiries consists of a dialogue through each. -/
theorem bindIff {first : Inquiry A} {next : A → Inquiry B} {final : B} :
    Dialogue (first.bind next) notes final ↔
      ∃ before value after, notes = before ++ after ∧ Dialogue first before value ∧
        Dialogue (next value) after final := by
  induction first generalizing notes with
  | done value =>
      constructor
      · intro dialogue
        exact ⟨[], value, notes, rfl, .done value, dialogue⟩
      · rintro ⟨_, _, after, rfl, ⟨⟩, dialogue⟩
        exact dialogue
  | report event rest inductionHypothesis =>
      rw [Inquiry.bind, reportIff]
      constructor
      · rintro ⟨_, rfl, dialogue⟩
        obtain ⟨before, value, after, rfl, first, second⟩ := inductionHypothesis.mp dialogue
        exact ⟨_, value, after, rfl, .report first, second⟩
      · rintro ⟨_, value, after, rfl, dialogue, second⟩
        obtain ⟨_, rfl, first⟩ := reportIff.mp dialogue
        exact ⟨_, rfl, inductionHypothesis.mpr ⟨_, value, after, rfl, first, second⟩⟩
  | ask query rest inductionHypothesis =>
      rw [Inquiry.bind, askIff]
      constructor
      · rintro ⟨answer, _, rfl, dialogue⟩
        obtain ⟨before, value, after, rfl, first, second⟩ :=
          (inductionHypothesis answer).mp dialogue
        exact ⟨_, value, after, rfl, .ask answer first, second⟩
      · rintro ⟨_, value, after, rfl, dialogue, second⟩
        obtain ⟨answer, _, rfl, first⟩ := askIff.mp dialogue
        exact ⟨answer, _, rfl,
          (inductionHypothesis answer).mpr ⟨_, value, after, rfl, first, second⟩⟩

end Dialogue

namespace Reading

variable {A B : Type} {notes : List Note}

/-- The first failure of a reading ends it. -/
theorem bindIff {first : Reading A} {next : A → Reading B} {result : Except Failure B} :
    Dialogue (first >>= next : Reading B) notes result ↔
      (∃ failure, Dialogue first notes (.error failure) ∧ result = .error failure) ∨
      ∃ before value after, Dialogue first before (.ok value) ∧
        Dialogue (next value) after result ∧ notes = before ++ after := by
  have whole : (first >>= next : Reading B) = Inquiry.bind first (ExceptT.bindCont next) := rfl
  rw [whole, Dialogue.bindIff]
  constructor
  · rintro ⟨before, failure | value, after, rfl, dialogue, rest⟩
    · obtain ⟨rfl, rfl⟩ := Dialogue.doneIff.mp rest
      exact .inl ⟨failure, by simpa using dialogue, rfl⟩
    · exact .inr ⟨before, value, after, dialogue, rest, rfl⟩
  · rintro (⟨failure, dialogue, rfl⟩ | ⟨before, value, after, dialogue, rest, rfl⟩)
    · exact ⟨notes, .error failure, [], by simp, dialogue, .done _⟩
    · exact ⟨before, .ok value, after, rfl, dialogue, rest⟩

@[simp] theorem pureIff {value : A} {result : Except Failure A} :
    Dialogue (pure value : Reading A) notes result ↔ notes = [] ∧ result = .ok value :=
  Dialogue.doneIff

@[simp] theorem throwIff {failure : Failure} {result : Except Failure A} :
    Dialogue (throw failure : Reading A) notes result ↔ notes = [] ∧ result = .error failure :=
  Dialogue.doneIff

@[simp] theorem liftIff {outcome result : Except Failure A} :
    Dialogue (liftM outcome : Reading A) notes result ↔ notes = [] ∧ result = outcome := by
  cases outcome <;> exact Dialogue.doneIff

@[simp] theorem queryIff {asked : Query} {result : Except Failure asked.Answer} :
    Dialogue (query asked) notes result ↔ notes = [.answered asked result] := by
  rw [query, Dialogue.askIff]
  constructor
  · rintro ⟨answer, _, rfl, ⟨⟩⟩
    rfl
  · rintro rfl
    exact ⟨result, [], rfl, .done _⟩

@[simp] theorem reportIff {event : Event} {result : Except Failure Unit} :
    Dialogue (report event) notes result ↔ notes = [.reported event] ∧ result = .ok () := by
  rw [report, Dialogue.reportIff]
  constructor
  · rintro ⟨_, rfl, ⟨⟩⟩
    exact ⟨rfl, rfl⟩
  · rintro ⟨rfl, rfl⟩
    exact ⟨[], rfl, .done _⟩

/-- A value is kept, and a failure is handled. -/
def settle (handle : Failure → Reading A) : Except Failure A → Inquiry (Except Failure A)
  | .ok value => .done (.ok value)
  | .error failure => handle failure

theorem catchWhole (reading : Reading A) (handle : Failure → Reading A) :
    (tryCatch reading handle : Reading A) = Inquiry.bind reading (settle handle) := by
  change Inquiry.bind reading _ = _
  congr 1
  funext outcome
  cases outcome <;> rfl

/-- A failure that is caught leads on from the notes that led to it. -/
theorem catchIff {reading : Reading A} {handle : Failure → Reading A}
    {result : Except Failure A} :
    Dialogue (tryCatch reading handle : Reading A) notes result ↔
      (∃ value, Dialogue reading notes (.ok value) ∧ result = .ok value) ∨
      ∃ before failure after, Dialogue reading before (.error failure) ∧
        Dialogue (handle failure) after result ∧ notes = before ++ after := by
  rw [catchWhole, Dialogue.bindIff]
  constructor
  · rintro ⟨before, failure | value, after, rfl, dialogue, rest⟩
    · exact .inr ⟨before, failure, after, dialogue, rest, rfl⟩
    · obtain ⟨rfl, rfl⟩ := Dialogue.doneIff.mp rest
      exact .inl ⟨value, by simpa using dialogue, rfl⟩
  · rintro (⟨value, dialogue, rfl⟩ | ⟨before, failure, after, dialogue, rest, rfl⟩)
    · exact ⟨notes, .ok value, [], by simp, dialogue, .done _⟩
    · exact ⟨before, .error failure, after, rfl, dialogue, rest⟩

/-- The last note before a failure that is passed on is the report about it. -/
theorem reportingIff {event : Failure → Event} {reading : Reading A}
    {result : Except Failure A} :
    Dialogue (reporting event reading) notes result ↔
      (∃ value, Dialogue reading notes (.ok value) ∧ result = .ok value) ∨
      ∃ before failure, Dialogue reading before (.error failure) ∧ result = .error failure ∧
        notes = before ++ [.reported (event failure)] := by
  rw [reporting, catchIff]
  refine or_congr_right (exists_congr fun before => exists_congr fun failure => ?_)
  constructor
  · rintro ⟨after, dialogue, rest, rfl⟩
    obtain ⟨_, told, _⟩ | ⟨_, _, _, told, passed, rfl⟩ := bindIff.mp rest
    · exact absurd (reportIff.mp told).2 nofun
    · obtain ⟨rfl, _⟩ := reportIff.mp told
      obtain ⟨rfl, rfl⟩ := throwIff.mp passed
      exact ⟨dialogue, rfl, rfl⟩
  · rintro ⟨dialogue, rfl, rfl⟩
    refine ⟨_, dialogue, bindIff.mpr (.inr ⟨_, (), [], reportIff.mpr ⟨rfl, rfl⟩, ?_, rfl⟩), rfl⟩
    exact throwIff.mpr ⟨rfl, rfl⟩

/-- A query is answered, or its failure is reported. -/
theorem reportingQueryIff {event : Failure → Event} {asked : Query}
    {result : Except Failure asked.Answer} :
    Dialogue (reporting event (query asked)) notes result ↔
      (∃ answer, notes = [.answered asked (.ok answer)] ∧ result = .ok answer) ∨
      ∃ failure, notes = [.answered asked (.error failure), .reported (event failure)] ∧
        result = .error failure := by
  rw [reportingIff]
  constructor
  · rintro (⟨answer, dialogue, rfl⟩ | ⟨before, failure, dialogue, rfl, rfl⟩)
    · exact .inl ⟨answer, queryIff.mp dialogue, rfl⟩
    · obtain rfl := queryIff.mp dialogue
      exact .inr ⟨failure, rfl, rfl⟩
  · rintro (⟨answer, rfl, rfl⟩ | ⟨failure, rfl, rfl⟩)
    · exact .inl ⟨answer, queryIff.mpr rfl, rfl⟩
    · exact .inr ⟨_, failure, queryIff.mpr rfl, rfl, rfl⟩

/-- A query that is answered leads on, and one that failed is reported and ends the reading. -/
theorem reportingQueryBindIff {event : Failure → Event} {asked : Query}
    {next : asked.Answer → Reading B} {result : Except Failure B} :
    Dialogue (reporting event (query asked) >>= next : Reading B) notes result ↔
      (∃ failure, notes = [.answered asked (.error failure), .reported (event failure)] ∧
        result = .error failure) ∨
      ∃ answer rest, notes = .answered asked (.ok answer) :: rest ∧
        Dialogue (next answer) rest result := by
  rw [bindIff]
  refine or_congr (exists_congr fun failure => ?_) ⟨?_, ?_⟩
  · rw [reportingQueryIff]
    simp
  · rintro ⟨before, value, rest, begun, dialogue, rfl⟩
    obtain ⟨answer, rfl, same⟩ | ⟨_, _, refused⟩ := reportingQueryIff.mp begun
    · obtain rfl := Except.ok.inj same
      exact ⟨value, rest, rfl, dialogue⟩
    · contradiction
  · rintro ⟨answer, rest, rfl, dialogue⟩
    exact ⟨[_], answer, rest, reportingQueryIff.mpr (.inl ⟨answer, rfl, rfl⟩), dialogue, rfl⟩

end Reading

namespace Inquiry

/-- A query was answered, and whoever answered it went from one state to another. -/
structure Turn (State : Type) where
  query : Query
  answer : Except Failure query.Answer
  before : State
  after : State

def Turn.note {State : Type} (turn : Turn State) : Note := .answered turn.query turn.answer

variable {State A : Type}

/-- An inquiry takes these turns if its queries are answered from some state on. -/
def turns (respond : Responder State) : Inquiry A → State → List (Turn State)
  | done _, _ => []
  | report _ next, state => next.turns respond state
  | ask query next, state =>
      let (answer, after) := respond query state
      ⟨query, answer, state, after⟩ :: (next answer).turns respond after

/-- Every turn is a response, and each one begins where the one before ended. -/
inductive Linked (respond : Responder State) : State → List (Turn State) → State → Prop where
  | nil (state : State) : Linked respond state [] state
  | cons {query : Query} {answer : Except Failure query.Answer} {before after final : State}
      {turns : List (Turn State)} (responds : respond query before = (answer, after))
      (rest : Linked respond after turns final) :
      Linked respond before (⟨query, answer, before, after⟩ :: turns) final

variable (respond : Responder State)

theorem runReport (event : Event) (next : Inquiry A) (course : Course State) :
    (report event next).run respond course =
      next.run respond { course with events := course.events ++ [event] } := rfl

theorem runAsk (query : Query) (next : Except Failure query.Answer → Inquiry A)
    (course : Course State) :
    (ask query next).run respond course =
      (next (respond query course.state).1).run respond { course with
        state := (respond query course.state).2
        asked := course.asked ++ [query] } := rfl

theorem linked (inquiry : Inquiry A) (course : Course State) :
    Linked respond course.state (inquiry.turns respond course.state)
      (inquiry.run respond course).2.state := by
  induction inquiry generalizing course with
  | done value => exact .nil _
  | report event next inductionHypothesis =>
      exact inductionHypothesis { course with events := course.events ++ [event] }
  | ask query next inductionHypothesis =>
      exact .cons rfl (inductionHypothesis (respond query course.state).1
        ⟨(respond query course.state).2, course.asked ++ [query], course.events⟩)

/-- A run follows one of the dialogues, and its course keeps what is asked and reported there. -/
theorem runDialogue (inquiry : Inquiry A) (course : Course State) :
    ∃ notes, Dialogue inquiry notes (inquiry.run respond course).1 ∧
      (inquiry.run respond course).2.asked = course.asked ++ notes.filterMap Note.query? ∧
      (inquiry.run respond course).2.events = course.events ++ notes.filterMap Note.event? ∧
      notes.filter Note.isAnswer = (inquiry.turns respond course.state).map Turn.note := by
  induction inquiry generalizing course with
  | done value => exact ⟨[], .done value, by simp; rfl, by simp; rfl, rfl⟩
  | report event next inductionHypothesis =>
      rw [runReport]
      obtain ⟨notes, dialogue, asked, events, turns⟩ :=
        inductionHypothesis { course with events := course.events ++ [event] }
      refine ⟨.reported event :: notes, .report dialogue, asked, ?_, turns⟩
      rw [events, List.append_assoc]
      rfl
  | ask query next inductionHypothesis =>
      rw [runAsk]
      obtain ⟨notes, dialogue, asked, events, turns⟩ :=
        inductionHypothesis (respond query course.state).1
          ⟨(respond query course.state).2, course.asked ++ [query], course.events⟩
      refine ⟨.answered query _ :: notes, .ask _ dialogue, ?_, events, ?_⟩
      · rw [asked, List.append_assoc]
        rfl
      · rw [List.filter_cons_of_pos rfl, turns]
        rfl

end Inquiry

end NodeBridge.Staking
