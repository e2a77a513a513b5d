import NodeBridge.Observer.Source
import NodeBridge.Duration

/-
This file defines a source that follows a plan.
Each attempt takes the next outcome of the plan, and an empty plan lets every attempt succeed.
-/

namespace NodeBridge.Observer

/-- A planned subscription may deliver items at once and give its own topic. -/
inductive Verdict (Item : Type) where
  | opened (items : List Item) (topic : Option String)
  | refused (reason : String)
  | timedOut (limit : Duration)
  | unsupported
  | silent

/-- The delay of an outcome is in milliseconds. -/
structure Outcome (Item : Type) where
  verdict : Verdict Item := .opened [] none
  delay : Nat := 0

/-- A stream keeps what was sent and not yet received. -/
structure Stream (Item : Type) where
  waiting : List (Delivery Item) := []
  closes : Nat := 0
  held : Bool := true

/-- An attempt that is under way knows when it ends. -/
structure Attempt (Item : Type) where
  topic : String
  due : Nat
  verdict : Verdict Item

/-- The newest stream comes last, and only it can be held. -/
structure Script (Item : Type) where
  plan : List (Outcome Item) := []
  attempt : Option (Attempt Item) := none
  streams : List (Stream Item) := []

/-- Sending reaches a stream, finds it dropped or finds no such stream. -/
inductive Sending where
  | sent
  | dropped
  | missing
  deriving DecidableEq

namespace Script

variable {Item : Type}

def beginOpen (now : Nat) (topic : String) (script : Script Item) : Script Item :=
  let (outcome, plan) := match script.plan with
    | [] => (({} : Outcome Item), [])
    | outcome :: rest => (outcome, rest)
  { script with plan, attempt := some ⟨topic, now + outcome.delay, outcome.verdict⟩ }

def completion? (now : Nat) (script : Script Item) :
    Option (Except OpenError String × Script Item) := do
  let attempt ← script.attempt
  if now < attempt.due then none
  let ended := { script with attempt := none }
  match attempt.verdict with
  | .opened items topic =>
      some (.ok (topic.getD attempt.topic),
        { ended with streams := ended.streams ++ [{ waiting := items.map .item }] })
  | .refused reason => some (.error (.refused reason), ended)
  | .timedOut limit => some (.error (.timedOut limit), ended)
  | .unsupported => some (.error (.unsupportedTopic attempt.topic), ended)
  | .silent => none

/-- A change of the newest stream. -/
def changeLast (change : Stream Item → Stream Item) (script : Script Item) : Script Item :=
  match script.streams.getLast? with
  | none => script
  | some stream => { script with streams := script.streams.dropLast ++ [change stream] }

/-- The place of a stream is the number of its subscription. -/
def changeAt (number : Nat) (change : Stream Item → Stream Item) (script : Script Item) :
    Script Item :=
  { script with streams := script.streams.modify number change }

def delivery? (_ number : Nat) (script : Script Item) :
    Option (Delivery Item × Script Item) := do
  let stream ← script.streams[number]?
  match stream.waiting with
  | [] => none
  | delivery :: rest =>
      some (delivery, script.changeAt number fun stream => { stream with waiting := rest })

def close (_ number : Nat) (script : Script Item) : Script Item × List Event :=
  (script.changeAt number fun stream =>
    { stream with closes := stream.closes + 1, held := false }, [])

/-- An attempt under way is forgotten, and otherwise the newest stream is dropped. -/
def abandon (_ : Nat) (script : Script Item) : Script Item :=
  match script.attempt with
  | some _ => { script with attempt := none }
  | none => script.changeLast fun stream => { stream with held := false }

def due? (script : Script Item) : Option Nat :=
  match script.attempt with
  | some { verdict := .silent, .. } => none
  | some attempt => some attempt.due
  | none => none

def plannedItems (outcome : Outcome Item) : Nat :=
  match outcome.verdict with
  | .opened items _ => items.length
  | _ => 0

/-- Every outcome takes up to four steps and every delivery up to three. -/
def burst (script : Script Item) : Nat :=
  let planned := (script.plan.map plannedItems).foldl Nat.add 0
  let flying := match script.attempt with
    | some { verdict := .opened items _, .. } => items.length
    | _ => 0
  let waiting := (script.streams.map fun stream => stream.waiting.length).foldl Nat.add 0
  4 * (script.plan.length + planned + flying + waiting)

/-- The script serves one worker as its source. -/
def source : Source (Script Item) Item where
  attend := fun _ script => script
  beginOpen := beginOpen
  completion? := completion?
  delivery? := delivery?
  close := close
  abandon := abandon
  due? := due?
  burst := burst

/-- A sender reaches a stream by its place as long as its receiver holds it. -/
def send (place : Nat) (deliveries : List (Delivery Item)) (script : Script Item) :
    Sending × Script Item :=
  match script.streams[place]? with
  | none => (.missing, script)
  | some stream =>
      if stream.held then
        let longer := { stream with waiting := stream.waiting ++ deliveries }
        (.sent, { script with streams := script.streams.set place longer })
      else (.dropped, script)

end Script

end NodeBridge.Observer
