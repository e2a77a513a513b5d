/-
This file decodes the parts of a name that were written with letters and digits only.
The plain characters come first, and the others are inserted one by one in ascending order.
-/

namespace NodeBridge.Url.Name.Punycode

/-- The letters stand for the first digits, and the ten numerals follow. -/
def digit? (character : Char) : Option Nat :=
  if 'a' ≤ character ∧ character ≤ 'z' then some (character.toNat - 97)
  else if '0' ≤ character ∧ character ≤ '9' then some (character.toNat - 22)
  else none

/-- The bias moves with the size of the last distance. -/
def reduce : Nat → Nat → Nat → Nat
  | 0, delta, shift => shift + 36 * delta / (delta + 38)
  | count + 1, delta, shift =>
      if 455 < delta then reduce count (delta / 35) (shift + 36)
      else shift + 36 * delta / (delta + 38)

def adapt (delta points : Nat) (isFirst : Bool) : Nat :=
  let damped := if isFirst then delta / 700 else delta / 2
  reduce 32 (damped + damped / points) 0

/-- The last digit of a distance is below its threshold. -/
def distance? (bias : Nat) : Nat → Nat → Nat → List Char → Option (Nat × List Char)
  | _, _, _, [] => none
  | total, weight, shift, character :: rest => do
      let digit ← digit? character
      let threshold := if shift ≤ bias then 1 else min (shift - bias) 26
      let next := total + digit * weight
      if UInt32.size ≤ next then none
      else if digit < threshold then some (next, rest)
      else distance? bias next (weight * (36 - threshold)) (shift + 36) rest

/-- The number of a character has to be one that a text can hold. -/
def character? (code : Nat) : Option Char :=
  if valid : code.isValidChar then some (Char.ofNatAux code valid) else none

/-- Each distance tells the next character and its place. -/
def insertAll : Nat → Nat → Nat → Nat → List Char → List Char → Option (List Char)
  | _, _, _, _, output, [] => some output
  | 0, _, _, _, _, _ => none
  | count + 1, code, place, bias, output, source => do
      let (delta, rest) ← distance? bias 0 1 36 source
      let points := output.length + 1
      let total := place + delta
      let nextCode := code + total / points
      let index := total % points
      let character ← character? nextCode
      let bias := adapt delta points (output.all (·.toNat < 128))
      insertAll count nextCode (index + 1) bias
        (output.take index ++ character :: output.drop index) rest

/-- The last hyphen ends the plain characters. -/
def decode? (source : List Char) : Option (List Char) :=
  let reversed := source.reverse
  let (plain, coded) :=
    if source.contains '-' then
      ((reversed.dropWhile (· ≠ '-')).drop 1 |>.reverse, (reversed.takeWhile (· ≠ '-')).reverse)
    else ([], source)
  if plain.all (·.toNat < 128) then insertAll coded.length 128 0 72 plain coded else none

end NodeBridge.Url.Name.Punycode
