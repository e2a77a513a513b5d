/-
This file defines JSON values and the members of an object.
A number is an integer only when it is written as one and fits into 64 bits.
-/

namespace NodeBridge

/-- Members keep the order in which they were written. -/
inductive Json where
  | null
  | boolean (value : Bool)
  | integer (value : Int)
  | decimal (source : String)
  | text (value : String)
  | list (items : List Json)
  | object (members : List (String × Json))
  deriving Inhabited, BEq

namespace Json

/-- The value of a key is the first one that is found. -/
def lookup (key : String) : List (String × Json) → Option Json
  | [] => none
  | (name, value) :: rest => if name = key then some value else lookup key rest

/-- A repeated key keeps its place and takes the new value. -/
def put (key : String) (value : Json) : List (String × Json) → List (String × Json)
  | [] => [(key, value)]
  | (name, old) :: rest =>
      if name = key then (name, value) :: rest else (name, old) :: put key value rest

/-- Only an object has members. -/
def member? (key : String) : Json → Option Json
  | .object members => lookup key members
  | _ => none

/-- Integers from zero up to the largest unsigned 64-bit number are counts. -/
def count? : Json → Option UInt64
  | .integer value =>
      if 0 ≤ value ∧ value.toNat < UInt64.size then some (UInt64.ofNat value.toNat) else none
  | _ => none

/-- Integers from zero up to 255 are bytes. -/
def byte? : Json → Option UInt8
  | .integer value => if 0 ≤ value ∧ value < 256 then some (UInt8.ofNat value.toNat) else none
  | _ => none

def text? : Json → Option String
  | .text value => some value
  | _ => none

def boolean? : Json → Option Bool
  | .boolean value => some value
  | _ => none

def list? : Json → Option (List Json)
  | .list items => some items
  | _ => none

def ofCount (value : UInt64) : Json := .integer value.toNat

def ofNat (value : Nat) : Json := .integer value

theorem countOfCount (value : UInt64) : (ofCount value).count? = some value := by
  have bound := value.toNat_lt
  simp only [ofCount, count?, UInt64.size, Int.toNat_natCast]
  rw [if_pos (by omega)]
  simp

end Json

end NodeBridge
