/-
This file writes a number as a fixed count of bytes, most significant byte first.
Reading a written number gives it back as long as it fits into the count.
-/

namespace NodeBridge.BigEndian

/-- This function keeps the low `count` bytes of the number. -/
def encode : Nat → Nat → List UInt8
  | 0, _ => []
  | count + 1, number => encode count (number / 256) ++ [UInt8.ofNat (number % 256)]

/-- Each byte is worth 256 times the byte that follows it. -/
def decode (bytes : List UInt8) : Nat :=
  bytes.foldl (fun number byte => 256 * number + byte.toNat) 0

@[simp] theorem lengthEncode (count number : Nat) : (encode count number).length = count := by
  induction count generalizing number with
  | zero => rfl
  | succ count inductionHypothesis => simp [encode, inductionHypothesis]

theorem decodeEncode (count number : Nat) :
    decode (encode count number) = number % Nat.pow 256 count := by
  induction count generalizing number with
  | zero => simp [encode, decode, Nat.mod_one]
  | succ count inductionHypothesis =>
      have head := inductionHypothesis (number / 256)
      simp only [decode] at head
      simp only [decode, encode, List.foldl_append, List.foldl_cons, List.foldl_nil, head,
        UInt8.toNat_ofNat', Nat.pow_eq, Nat.pow_succ, Nat.mul_comm _ 256, Nat.mod_mul]
      omega

end NodeBridge.BigEndian
