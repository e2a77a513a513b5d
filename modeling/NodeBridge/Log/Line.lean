import NodeBridge.Event
import NodeBridge.Json.Printer
import NodeBridge.Text.Quoted

/-
This file writes events as lines of a log, in plain words or as JSON.
-/

namespace NodeBridge.Log

def valueJson : Event.Value → Json
  | .shown text => .text text
  | .quoted text => .text text
  | .number value => .ofNat value

def fieldsJson (event : Event) : List (String × Json) :=
  event.fields.map fun (name, value) => (name, valueJson value)

/-- In JSON the message is the first of the fields. -/
def jsonLine (event : Event) : Json := .object [
  ("level", .text event.level.name),
  ("fields", .object (("message", .text event.message) :: fieldsJson event)),
  ("target", .text event.component.path)]

/-- Shown texts stand without quotes. -/
def valueText : Event.Value → String
  | .shown text => text
  | .quoted text => Text.debugQuote text
  | .number value => toString value

def fieldText (field : String × Event.Value) : String := " " ++ field.1 ++ "=" ++ valueText field.2

/-- In plain words the fields follow the message in their order. -/
def plainLine (event : Event) : String :=
  event.level.name ++ " " ++ event.component.path ++ ": " ++ event.message ++
    String.join (event.fields.map fieldText)

end NodeBridge.Log
