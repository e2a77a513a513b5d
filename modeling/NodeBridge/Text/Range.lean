/-
This file tests whether a character lies in one of several ranges.
-/

namespace NodeBridge.Text

/-- Both ends of a range belong to it. -/
def inRanges (ranges : List (Nat × Nat)) (character : Char) : Bool :=
  ranges.any fun range => range.1 ≤ character.toNat && character.toNat ≤ range.2

end NodeBridge.Text
