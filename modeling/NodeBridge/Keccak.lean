import NodeBridge.BigEndian

/-
This file computes the 256-bit Keccak digest that contract selectors and address checksums use.
The sponge absorbs 136 bytes at a time and pads with the bits `1 0* 1`.
-/

namespace NodeBridge.Keccak

/-- The state is a square of five rows with five lanes each. -/
abbrev State := Vector UInt64 25

def lane (state : State) (column row : Nat) : UInt64 := state[(column % 5) + 5 * (row % 5)]!

def rotate (value : UInt64) (count : Nat) : UInt64 :=
  if count = 0 then value
  else (value <<< UInt64.ofNat count) ||| (value >>> UInt64.ofNat (64 - count))

/-- Each lane absorbs the parity of the two neighbouring columns. -/
def mixColumns (state : State) : State :=
  let parity (column : Nat) : UInt64 :=
    (List.range 5).foldl (fun sum row => sum ^^^ lane state column row) 0
  Vector.ofFn fun index =>
    state[index] ^^^ parity (index.val + 4) ^^^ rotate (parity (index.val + 1)) 1

/-- The lane at `column + 5 * row` turns by this count. -/
def offsets : Vector Nat 25 :=
  #v[0, 1, 62, 28, 27, 36, 44, 6, 55, 20, 3, 10, 43, 25, 39, 41, 45, 15, 21, 8, 18, 2, 61, 56, 14]

/-- Each lane turns by its offset and moves to its new place. -/
def moveLanes (state : State) : State :=
  Vector.ofFn fun index =>
    let row := index.val / 5
    let column := index.val % 5
    let source := (column + 3 * row) % 5 + 5 * column
    rotate (state[source]!) (offsets[source]!)

/-- Each lane of a row depends on the two lanes that follow it. -/
def mixRows (state : State) : State :=
  Vector.ofFn fun index =>
    let row := index.val / 5
    let column := index.val % 5
    state[index] ^^^ (~~~ lane state (column + 1) row &&& lane state (column + 2) row)

/-- One constant breaks the symmetry of each round. -/
def roundConstants : List UInt64 :=
  [0x0000000000000001, 0x0000000000008082, 0x800000000000808a, 0x8000000080008000,
   0x000000000000808b, 0x0000000080000001, 0x8000000080008081, 0x8000000000008009,
   0x000000000000008a, 0x0000000000000088, 0x0000000080008009, 0x000000008000000a,
   0x000000008000808b, 0x800000000000008b, 0x8000000000008089, 0x8000000000008003,
   0x8000000000008002, 0x8000000000000080, 0x000000000000800a, 0x800000008000000a,
   0x8000000080008081, 0x8000000000008080, 0x0000000080000001, 0x8000000080008008]

def round (state : State) (constant : UInt64) : State :=
  let mixed := mixRows (moveLanes (mixColumns state))
  mixed.set 0 (mixed[0] ^^^ constant)

/-- The permutation runs all rounds in order. -/
def permute (state : State) : State := roundConstants.foldl round state

/-- A block holds the first 136 bytes of the state. -/
def rate : Nat := 136

/-- A lane holds eight bytes, least significant first. -/
def absorb (state : State) (block : List UInt8) : State :=
  let words : State := Vector.ofFn fun index =>
    UInt64.ofNat (BigEndian.decode ((block.drop (8 * index.val)).take 8).reverse)
  permute (Vector.ofFn fun index => state[index] ^^^ words[index])

/-- The padding fills the last block and is never empty. -/
def pad (message : List UInt8) : List UInt8 :=
  let missing := rate - message.length % rate
  if missing = 1 then message ++ [0x81]
  else message ++ 0x01 :: List.replicate (missing - 2) 0x00 ++ [0x80]

/-- The message is absorbed block by block. -/
def absorbAll : Nat → State → List UInt8 → State
  | 0, state, _ => state
  | count + 1, state, message => absorbAll count (absorb state (message.take rate)) (message.drop rate)

/-- The digest is the first 32 bytes of the final state. -/
def digest (message : List UInt8) : List UInt8 :=
  let padded := pad message
  let final := absorbAll (padded.length / rate) (Vector.replicate 25 0) padded
  (final.toList.take 4).flatMap fun word => (BigEndian.encode 8 word.toNat).reverse

end NodeBridge.Keccak
