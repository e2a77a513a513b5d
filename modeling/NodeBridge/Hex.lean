/-
This file writes bytes as pairs of hexadecimal digits and reads the pairs back.
Writing uses lower case; reading takes either case.
-/

namespace NodeBridge.Hex

/-- The digits from ten on are the letters from `a` to `f`. -/
def digit (value : Nat) : Char :=
  if value < 10 then Char.ofNat (48 + value) else Char.ofNat (87 + value)

/-- This function gives the value of a digit in either case. -/
def value? (character : Char) : Option Nat :=
  let code := character.toNat
  if 48 ≤ code ∧ code ≤ 57 then some (code - 48)
  else if 97 ≤ code ∧ code ≤ 102 then some (code - 87)
  else if 65 ≤ code ∧ code ≤ 70 then some (code - 55)
  else none

/-- The high half of a byte comes first. -/
def ofByte (byte : UInt8) : List Char :=
  [digit (byte.toNat / 16), digit (byte.toNat % 16)]

/-- This function writes the bytes one after the other. -/
def encode (bytes : List UInt8) : List Char := bytes.flatMap ofByte

/-- Reading takes two digits for each byte and nothing else. -/
def decode? : List Char → Option (List UInt8)
  | [] => some []
  | [_] => none
  | high :: low :: rest => do
      let highValue ← value? high
      let lowValue ← value? low
      let bytes ← decode? rest
      return UInt8.ofNat (16 * highValue + lowValue) :: bytes

/-- The text of bytes begins with the marker `0x`. -/
def text (bytes : List UInt8) : String := String.ofList ('0' :: 'x' :: encode bytes)

/-- The marker `0x` or `0X` is removed once if it is there. -/
def dropMarker : List Char → List Char
  | '0' :: 'x' :: rest => rest
  | '0' :: 'X' :: rest => rest
  | characters => characters

/-- A byte text is whole bytes in hexadecimal after an optional marker. -/
def ofText? (source : String) : Option (List UInt8) := decode? (dropMarker source.toList)

/-- The text of a number has no leading zero digit. -/
def ofNat (number : Nat) : String := "0x" ++ String.ofList (Nat.toDigits 16 number)

/-- This function pads the digits of a number with zeros to a least count. -/
def padded (count number : Nat) : String :=
  let digits := Nat.toDigits 16 number
  "0x" ++ String.ofList (List.replicate (count - digits.length) '0' ++ digits)

theorem valueDigit {number : Nat} (small : number < 16) : value? (digit number) = some number := by
  have cases : ∀ index : Fin 16, value? (digit index.val) = some index.val := by decide
  exact cases ⟨number, small⟩

@[simp] theorem decodeEncode (bytes : List UInt8) : decode? (encode bytes) = some bytes := by
  induction bytes with
  | nil => rfl
  | cons byte rest inductionHypothesis =>
      have bound := byte.toNat_lt
      simp only [encode] at inductionHypothesis
      simp only [encode, ofByte, decode?, List.flatMap_cons, List.cons_append, List.nil_append,
        valueDigit (show byte.toNat / 16 < 16 by omega),
        valueDigit (show byte.toNat % 16 < 16 by omega), inductionHypothesis, bind,
        Option.bind, pure, Nat.div_add_mod, UInt8.ofNat_toNat]

theorem lengthEncode (bytes : List UInt8) : (encode bytes).length = 2 * bytes.length := by
  induction bytes with
  | nil => rfl
  | cons byte rest inductionHypothesis =>
      simp only [encode] at inductionHypothesis
      simp [encode, ofByte, inductionHypothesis]
      omega

end NodeBridge.Hex
