import NodeBridge.Hex

/-
This file reads the numbers and the dotted forms of IPv4 hosts.
A host whose last label is a number has to be such an address.
-/

namespace NodeBridge.Url

/-- An IPv4 host is a number of 32 bits. -/
abbrev Ipv4 := BitVec 32

namespace Ipv4

/-- A part of a host is cut at every dot. -/
def splitOn (mark : Char) (source : List Char) : List (List Char) :=
  source.foldr
    (fun character parts =>
      match parts with
      | [] => [[character]]
      | part :: rest => if character = mark then [] :: part :: rest else (character :: part) :: rest)
    [[]]

/-- All digits are below the base. -/
def digits? (base : Nat) (source : List Char) : Option Nat :=
  source.foldlM
    (fun number character => do
      let value ← Hex.value? character
      if value < base then some (base * number + value) else none)
    0

/-- A marker or a leading zero chooses the base, and the marker alone is zero. -/
def part? : List Char → Option Nat
  | [] => none
  | '0' :: 'x' :: rest => digits? 16 rest
  | '0' :: 'X' :: rest => digits? 16 rest
  | '0' :: second :: rest => digits? 8 (second :: rest)
  | source => digits? 10 source

/-- The empty label after a final dot does not count as the last label. -/
def labels (host : List Char) : List (List Char) :=
  let parts := splitOn '.' host
  if parts.length > 1 ∧ parts.getLast? = some [] then parts.dropLast else parts

/-- A last label of decimal digits, or one that reads as a number, makes the host numeric. -/
def endsInNumber (host : List Char) : Bool :=
  match (labels host).getLast? with
  | none => false
  | some last =>
      (!last.isEmpty && last.all fun character => '0' ≤ character && character ≤ '9') ||
        (part? last).isSome

/-- All parts but the last are bytes, and the last one fills the bytes that are left. -/
def ofParts? (parts : List Nat) : Option Ipv4 :=
  match parts.reverse with
  | [] => none
  | last :: leading =>
      if parts.length > 4 ∨ Nat.pow 256 (4 - leading.length) ≤ last ∨ leading.any (255 < ·) then none
      else
        let high := leading.reverse.foldl (fun number byte => 256 * number + byte) 0
        some (BitVec.ofNat 32 (high * Nat.pow 256 (4 - leading.length) + last))

/-- This function reads a host that ends in a number. -/
def parse? (host : List Char) : Option Ipv4 := do
  let parts ← (labels host).mapM part?
  ofParts? parts

end Ipv4

end NodeBridge.Url
