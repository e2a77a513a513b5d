import NodeBridge.Event
import NodeBridge.Text.Blank

/-
This file decides which events reach the log.
A filter is a list of directives, and the directive with the longest target decides.
-/

namespace NodeBridge.Log

/-- Events of a level and all that are more severe pass, or none at all. -/
abbrev Threshold := Option Event.Level

namespace Threshold

def allows (threshold : Threshold) (level : Event.Level) : Bool :=
  match threshold with
  | none => false
  | some lowest => lowest.rank ≤ level.rank

/-- Zero stands for silence, and a higher number lets more through. -/
def ofNumber? : Nat → Option Threshold
  | 0 => some none
  | 1 => some (some .error)
  | 2 => some (some .warn)
  | 3 => some (some .info)
  | 4 => some (some .debug)
  | 5 => some (some .trace)
  | _ => none

def ofName? (name : String) : Option Threshold :=
  match name with
  | "off" => some none
  | "error" => some (some .error)
  | "warn" => some (some .warn)
  | "info" => some (some .info)
  | "debug" => some (some .debug)
  | "trace" => some (some .trace)
  | _ => none

/-- A number may have a plus sign and leading zeros. -/
def number? (source : List Char) : Option Nat :=
  let digits := if source.head? = some '+' then source.drop 1 else source
  if digits.isEmpty then none
  else if digits.all fun digit => '0' ≤ digit && digit ≤ '9' then
    some (digits.foldl (fun total digit => 10 * total + (digit.toNat - 48)) 0)
  else none

/-- A threshold is a number or a name in any case of letters. -/
def parse? (source : List Char) : Option Threshold :=
  match number? source with
  | some number => ofNumber? number
  | none => ofName? (String.ofList (source.map Char.toLower))

end Threshold

/-- A directive is cut short or names a level that does not exist. -/
inductive DirectiveError where
  | malformed
  | unknownLevel
  deriving DecidableEq

def DirectiveError.message : DirectiveError → String
  | .malformed => "invalid filter directive"
  | .unknownLevel =>
      "error parsing level filter: expected one of \"off\", \"error\", \"warn\", \"info\", " ++
        "\"debug\", \"trace\", or a number 0-5"

/-- Without a target a directive concerns every event, and about spans it concerns none. -/
inductive Directive where
  | events (target : Option String) (threshold : Threshold)
  | spans
  deriving DecidableEq

namespace Directive

def trim (source : List Char) : List Char :=
  ((source.dropWhile Text.isBlank).reverse.dropWhile Text.isBlank).reverse

/-- A target begins with a letter, a digit or one of three marks. -/
def beginsTarget (character : Char) : Bool :=
  character.isAlphanum || 128 ≤ character.toNat || character = '-' || character = ':' ||
    character = '_'

/-- A missing level lets everything through. -/
def level? (source : List Char) : Except DirectiveError Threshold :=
  if source.isEmpty then .ok (some .trace)
  else
    match Threshold.parse? source with
    | some threshold => .ok threshold
    | none => .error .unknownLevel

/-- Places are counted without the blanks at the front but apply to the whole text. -/
def parse (source : String) : Except DirectiveError Directive :=
  let whole := source.toList
  let trimmed := trim whole
  match trimmed with
  | [] => .error .malformed
  | first :: _ =>
      let before := trimmed.takeWhile fun character => character ≠ '=' && character ≠ '['
      if first = '[' || beginsTarget first then
        match trimmed.drop before.length with
        | [] =>
            match Threshold.parse? whole with
            | some threshold => .ok (.events none threshold)
            | none => .ok (.events (some source) (some .trace))
        | '[' :: inner => if inner.contains ']' then .ok .spans else .error .malformed
        | _ => do
            let target := String.ofList (whole.take before.length)
            return .events (some target) (← level? (whole.drop (before.length + 1)))
      else .error .malformed

/-- This is the length of a target, and a directive without a target is the shortest. -/
def weight : Directive → Nat
  | events (some target) _ => target.utf8ByteSize + 1
  | _ => 0

/-- A target concerns all paths that begin with it. -/
def concerns (path : String) : Directive → Bool
  | events (some target) _ => path.startsWith target
  | events none _ => true
  | spans => false

def allows (level : Event.Level) : Directive → Bool
  | events _ threshold => threshold.allows level
  | spans => false

end Directive

abbrev Filter := List Directive

namespace Filter

/-- Of two directives with the same weight the later one counts. -/
def strongest (path : String) (filter : Filter) : Option Directive :=
  (filter.filter (Directive.concerns path)).foldl
    (fun best directive =>
      match best with
      | none => some directive
      | some other => if other.weight ≤ directive.weight then some directive else some other)
    none

/-- An event that no directive concerns does not pass. -/
def passes (filter : Filter) (event : Event) : Bool :=
  match filter.strongest event.component.path with
  | none => false
  | some directive => directive.allows event.level

def parts (source : String) : List String := (source.splitOn ",").filter fun part => !part.isEmpty

/-- A filter that the user gives has to be right in every part. -/
def parse (source : String) : Except DirectiveError Filter := (parts source).mapM Directive.parse

/-- This is the remark about a part that cannot be used. -/
def remark (part : String) (error : DirectiveError) : String :=
  "ignoring \x60" ++ part ++ "\x60: " ++ error.message

def tolerantParts : List String → Filter × List String
  | [] => ([], [])
  | part :: rest =>
      let (filter, remarks) := tolerantParts rest
      match Directive.parse part with
      | .ok directive => (directive :: filter, remarks)
      | .error error => (filter, remark part error :: remarks)

/-- Parts that cannot be used are left out, and without any part only errors pass. -/
def parseTolerant (source : String) : Filter × List String :=
  let (filter, remarks) := tolerantParts (parts source)
  (if filter.isEmpty then [.events none (some .error)] else filter, remarks)

/-- Without another wish only the events of the bridge are shown, from a level on. -/
def standardText (level : String) : String := "axis_bridge=" ++ level

/-- The wish of the user counts if it can be read. -/
def choose (wish : Option String) (level : String) : Filter × List String :=
  match wish.map parse with
  | some (.ok filter) => (filter, [])
  | _ => parseTolerant (standardText level)

end Filter

end NodeBridge.Log
