import NodeBridge.Text.Range

/-
This file decides which characters are white space in the Unicode sense.
-/

namespace NodeBridge.Text

/-- These ranges hold exactly the characters with the property `White_Space`. -/
def blankRanges : List (Nat × Nat) :=
  [(0x9, 0xD), (0x20, 0x20), (0x85, 0x85), (0xA0, 0xA0), (0x1680, 0x1680), (0x2000, 0x200A),
   (0x2028, 0x2029), (0x202F, 0x202F), (0x205F, 0x205F), (0x3000, 0x3000)]

def isBlank (character : Char) : Bool := inRanges blankRanges character

/-- A text without any visible character is blank, and so is the empty text. -/
def allBlank (source : String) : Bool := source.toList.all isBlank

end NodeBridge.Text
