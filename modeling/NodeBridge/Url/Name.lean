import NodeBridge.Hex
import NodeBridge.Url.Name.Part

/-
This file turns the host of a URL into the name that is looked up.
The host is decoded from percent signs, mapped character by character, composed and checked.
-/

namespace NodeBridge.Url.Name

/-- A percent sign with two digits stands for a byte. -/
def percentDecode : List UInt8 → List UInt8
  | 37 :: high :: low :: rest =>
      match Hex.value? (Char.ofNat high.toNat), Hex.value? (Char.ofNat low.toNat) with
      | some highValue, some lowValue =>
          if high < 128 ∧ low < 128 then
            UInt8.ofNat (16 * highValue + lowValue) :: percentDecode rest
          else 37 :: percentDecode (high :: low :: rest)
      | _, _ => 37 :: percentDecode (high :: low :: rest)
  | byte :: rest => byte :: percentDecode rest
  | [] => []

/-- Control characters, blanks and the marks of a URL cannot stand in a name. -/
def isForbidden (character : Char) : Bool :=
  character.toNat ≤ 32 || character.toNat = 127 || "#/:<>?@[\\]^|%".toList.contains character

/-- The bytes of a host have to be text. -/
def ofBytes? (bytes : List UInt8) : Option (List Char) :=
  (String.fromUTF8? (ByteArray.mk bytes.toArray)).map String.toList

/-- Unfit characters end the reading, ignored ones are dropped, and the others are folded. -/
def mapAll? : List Char → Option (List Char)
  | [] => some []
  | character :: rest => do
      let mapped ← mapAll? rest
      if isUnfit character then none
      else if isIgnored character then some mapped
      else some (fold character ++ mapped)

/-- A name is not empty, and all its parts are fit. -/
def parse? (host : List Char) : Option (List Char) := do
  let characters ← ofBytes? (percentDecode (String.ofList host).toUTF8.toList)
  let name := normalize (← mapAll? characters)
  let parts ← (splitParts name).mapM readPart?
  if name.isEmpty ∨ name.any isForbidden ∨ !areDirected parts then none else some name

end NodeBridge.Url.Name
