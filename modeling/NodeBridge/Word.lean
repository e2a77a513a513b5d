import NodeBridge.Hex
import NodeBridge.BigEndian

/-
This file defines the 256-bit numbers that contracts take and return.
A word is written in minimal hexadecimal and read in four bases.
-/

namespace NodeBridge

/-- A contract number has 256 bits and no sign. -/
abbrev Word := BitVec 256

namespace Word

/-- This function refuses a number that needs more than 256 bits. -/
def ofNat? (number : Nat) : Option Word :=
  if number < Nat.pow 2 256 then some (BitVec.ofNat 256 number) else none

/-- A word is written in hexadecimal without leading zeros. -/
def hex (word : Word) : String := Hex.ofNat word.toNat

/-- Messages show a word in decimal. -/
def decimal (word : Word) : String := toString word.toNat

/-- The bytes of a word are its 32 bytes, most significant first. -/
def bytes (word : Word) : List UInt8 := BigEndian.encode 32 word.toNat

/-- The word of some bytes keeps the low 256 bits of their number. -/
def ofBytes (source : List UInt8) : Word := BitVec.ofNat 256 (BigEndian.decode source)

/-- A marker chooses the base, and base ten needs none. -/
def splitBase : List Char → Nat × List Char
  | '0' :: 'x' :: rest => (16, rest)
  | '0' :: 'X' :: rest => (16, rest)
  | '0' :: 'o' :: rest => (8, rest)
  | '0' :: 'O' :: rest => (8, rest)
  | '0' :: 'b' :: rest => (2, rest)
  | '0' :: 'B' :: rest => (2, rest)
  | characters => (10, characters)

/-- Underscores between the digits are skipped, and no digit at all stands for zero. -/
def digits? (base : Nat) : List Char → Nat → Option Nat
  | [], number => some number
  | '_' :: rest, number => digits? base rest number
  | character :: rest, number => do
      let value ← Hex.value? character
      if value < base then digits? base rest (base * number + value) else none

/-- This function reads a word in hexadecimal, octal, binary or decimal. -/
def ofText? (source : String) : Option Word := do
  let (base, characters) := splitBase source.toList
  let number ← digits? base characters 0
  ofNat? number

theorem ofBytesBytes (word : Word) : ofBytes word.bytes = word := by
  have bound := word.isLt
  apply BitVec.eq_of_toNat_eq
  simp only [ofBytes, bytes, BigEndian.decodeEncode, Nat.pow_eq, BitVec.toNat_ofNat]
  omega

@[simp] theorem lengthBytes (word : Word) : word.bytes.length = 32 := by
  simp [bytes]

end Word

end NodeBridge
