/-
This file defines TOML documents and the rules by which tables grow.
How a table came to be decides whether a later line may still add to it.
-/

namespace NodeBridge

/-- A table is named by a header, implied by a longer header, opened by dots, or written inline. -/
inductive Toml.Origin where
  | header
  | implied
  | dotted
  | inline
  deriving DecidableEq

/-- Numbers with a fraction and moments in time keep their source. -/
inductive Toml where
  | text (value : String)
  | integer (value : Int)
  | decimal (source : String)
  | boolean (value : Bool)
  | moment (source : String)
  | list (items : List Toml)
  | table (origin : Toml.Origin) (members : List (String × Toml))
  | tables (elements : List (List (String × Toml)))
  deriving Inhabited

namespace Toml

abbrev Members := List (String × Toml)

def lookup (key : String) : Members → Option Toml
  | [] => none
  | (name, value) :: rest => if name = key then some value else lookup key rest

/-- A key that is already there keeps its place. -/
def put (key : String) (value : Toml) : Members → Members
  | [] => [(key, value)]
  | (name, old) :: rest =>
      if name = key then (name, value) :: rest else (name, old) :: put key value rest

/-- Inline tables are closed, and dots cannot reach into a table that has its own header. -/
def Origin.mayEnter (dotted : Bool) : Origin → Bool
  | .header => !dotted
  | .implied => true
  | .dotted => true
  | .inline => false

/-- A path passes into the last table of an array and makes the tables that are missing. -/
def alter (dotted : Bool) (change : Origin → Members → Option (Origin × Members)) :
    List String → Origin → Members → Option (Origin × Members)
  | [], origin, members => change origin members
  | key :: path, origin, members =>
      match lookup key members with
      | none => do
          let (inner, entries) ← alter dotted change path (if dotted then .dotted else .implied) []
          return (origin, put key (.table inner entries) members)
      | some (.table inner entries) =>
          if inner.mayEnter dotted then do
            let (newInner, newEntries) ← alter dotted change path inner entries
            return (origin, put key (.table newInner newEntries) members)
          else none
      | some (.tables elements) => do
          let last ← elements.getLast?
          let (_, newLast) ← alter dotted change path .header last
          return (origin, put key (.tables (elements.dropLast ++ [newLast])) members)
      | some _ => none

/-- A new key has to be free, and dots may end only in a table that dots have opened. -/
def addHere (dotted : Bool) (key : String) (value : Toml) (origin : Origin) (members : Members) :
    Option (Origin × Members) :=
  if (origin = .dotted) ≠ dotted ∨ (lookup key members).isSome then none
  else some (origin, put key value members)

/-- The path of a dotted key is walked from the table that holds the line. -/
def addDotted (path : List String) (key : String) (value : Toml) (origin : Origin)
    (members : Members) : Option (Origin × Members) :=
  alter true (addHere (!path.isEmpty) key value) path origin members

/-- A header names its table once, and only an implied table may get its header later. -/
def openHere (key : String) (origin : Origin) (members : Members) : Option (Origin × Members) :=
  match lookup key members with
  | none => some (origin, put key (.table .header []) members)
  | some (.table .implied entries) => some (origin, put key (.table .header entries) members)
  | some _ => none

/-- A doubled header adds an element to an array that other doubled headers began. -/
def openElementHere (key : String) (origin : Origin) (members : Members) :
    Option (Origin × Members) :=
  match lookup key members with
  | none => some (origin, put key (.tables [[]]) members)
  | some (.tables elements) => some (origin, put key (.tables (elements ++ [[]])) members)
  | some _ => none

/-- A document is the table under construction and the path of the last header. -/
structure Document where
  root : Members := []
  path : List String := []

/-- This function applies a change at a path from the root. -/
def Document.change (document : Document) (path : List String)
    (step : Origin → Members → Option (Origin × Members)) : Option Members :=
  (alter false step path .header document.root).map Prod.snd

/-- A line adds its key to the table of the last header. -/
def Document.add (document : Document) (key : List String) (value : Toml) : Option Document := do
  let name ← key.getLast?
  let root ← document.change document.path (addDotted key.dropLast name value)
  return ⟨root, document.path⟩

/-- A header opens a table or an element of an array of tables. -/
def Document.openTable (document : Document) (element : Bool) (path : List String) :
    Option Document := do
  let name ← path.getLast?
  let step := if element then openElementHere name else openHere name
  let root ← document.change path.dropLast step
  return ⟨root, path⟩

end Toml

end NodeBridge
