/-
This file looks up the fields of a record among named or ordered entries.
-/

namespace NodeBridge

/-- The entries of a record have names, or they stand in the order of its fields. -/
inductive Entries (Value : Type) where
  | named (members : List (String × Value))
  | ordered (items : List Value)

namespace Entries

variable {Value A : Type}

/-- The first entry of a name counts. -/
def named? (name : String) : List (String × Value) → Option Value
  | [] => none
  | (key, value) :: rest => if key = name then some value else named? name rest

def find? (entries : Entries Value) (position : Nat) (name : String) : Option Value :=
  match entries with
  | .named members => named? name members
  | .ordered items => items[position]?

/-- The default stands for an entry that is missing, but not for one that cannot be read. -/
def read (entries : Entries Value) (position : Nat) (name : String) (reader : Value → Option A)
    (default : A) : Option A :=
  match entries.find? position name with
  | none => some default
  | some value => reader value

/-- An entry without a default has to be there. -/
def require (entries : Entries Value) (position : Nat) (name : String)
    (reader : Value → Option A) : Option A :=
  (entries.find? position name).bind reader

end Entries

end NodeBridge
