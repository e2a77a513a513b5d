import NodeBridge.Word
import NodeBridge.Keccak

/-
This file defines contract and account addresses with their three spellings.
Records and requests write lower case, messages write the mixed-case checksum, and
reading takes any case with or without the marker.
-/

namespace NodeBridge

/-- An address is a number of 20 bytes. -/
structure Address where
  number : BitVec 160
  deriving DecidableEq, Inhabited

namespace Address

/-- The bytes of an address are its 20 bytes, most significant first. -/
def bytes (address : Address) : List UInt8 := BigEndian.encode 20 address.number.toNat

/-- The address of some bytes keeps their low 160 bits. -/
def ofBytes (source : List UInt8) : Address := ⟨BitVec.ofNat 160 (BigEndian.decode source)⟩

def zero : Address := ⟨0⟩

/-- The digits of an address are forty and have no marker. -/
def digits (address : Address) : List Char := Hex.encode address.bytes

/-- Records and requests write an address in lower case. -/
def hex (address : Address) : String := String.ofList ('0' :: 'x' :: address.digits)

/-- A letter is raised exactly when its digit of the checksum digest is above seven. -/
def raise (character digestDigit : Char) : Char :=
  if 7 < (Hex.value? digestDigit).getD 0 then character.toUpper else character

/-- Messages write an address in mixed case, and the case carries a checksum. -/
def checksum (address : Address) : String :=
  let plain := address.digits
  let hash := Hex.encode (Keccak.digest (plain.map fun digit => UInt8.ofNat digit.toNat))
  String.ofList ('0' :: 'x' :: List.zipWith raise plain hash)

/-- An address text fails for one of three reasons, which are tested in this order. -/
inductive ParseError where
  | oddLength
  | wrongLength
  | badCharacter (byte : UInt8) (position : Nat)
  deriving DecidableEq

/-- The marker is removed once, and positions count from after it. -/
def dropMarker : List UInt8 → List UInt8
  | 48 :: 120 :: rest => rest
  | 48 :: 88 :: rest => rest
  | source => source

/-- This function gives the value of a digit byte. -/
def digitValue? (byte : UInt8) : Option Nat :=
  if byte < 128 then Hex.value? (Char.ofNat byte.toNat) else none

/-- Reading stops at the first byte that is no digit. -/
def readDigits : Nat → Nat → List UInt8 → Except ParseError Nat
  | _, number, [] => .ok number
  | position, number, byte :: rest =>
      match digitValue? byte with
      | none => .error (.badCharacter byte position)
      | some value => readDigits (position + 1) (16 * number + value) rest

/-- An address text is forty digits after an optional marker, counted in bytes. -/
def parse (source : String) : Except ParseError Address :=
  let text := dropMarker source.toUTF8.toList
  if text.length % 2 ≠ 0 then .error .oddLength
  else if text.length ≠ 40 then .error .wrongLength
  else (readDigits 0 0 text).map fun number => ⟨BitVec.ofNat 160 number⟩

def ofText? (source : String) : Option Address := (parse source).toOption

/-- An address takes the low 160 bits of a contract word. -/
def word (address : Address) : Word := address.number.setWidth 256

@[simp] theorem lengthBytes (address : Address) : address.bytes.length = 20 := by
  simp [bytes]

end Address

end NodeBridge
