import NodeBridge.Url.Name.Composition
import NodeBridge.Url.Name.Direction
import NodeBridge.Url.Name.Fold
import NodeBridge.Url.Name.Joining
import NodeBridge.Url.Name.Mark
import NodeBridge.Url.Name.Punycode
import NodeBridge.Url.Name.Unfit

/-
This file checks the parts of a name, which stand between the dots.
-/

namespace NodeBridge.Url.Name

/-- A part with this marker is decoded. -/
def codedMarker : List Char := ['x', 'n', '-', '-']

/-- A part in its readable form begins with no mark and holds its joiners rightly. -/
def isReadable (part : List Char) : Bool :=
  let begins := match part with
    | [] => true
    | first :: _ => !isMark first
  begins && isJoined [] part

/-- A decoded part is written as it would be without coding, and it needs the coding. -/
def isDecoded (part : List Char) : Bool :=
  part.any (128 ≤ ·.toNat) && !codedMarker.isPrefixOf part && normalize part == part &&
    part.all fun character =>
      !isUnfit character && !isIgnored character && !isReplaced character &&
        fold character == [character]

/-- The readable form of a part is itself or what it encodes. -/
def readPart? (part : List Char) : Option (List Char) :=
  if codedMarker.isPrefixOf part then do
    let decoded ← Punycode.decode? (part.drop 4)
    if isDecoded decoded && isReadable decoded then some decoded else none
  else if isReadable part then some part
  else none

/-- The parts of a name are separated by dots. -/
def splitParts : List Char → List (List Char)
  | [] => [[]]
  | '.' :: rest => [] :: splitParts rest
  | character :: rest =>
      match splitParts rest with
      | [] => [[character]]
      | part :: others => (character :: part) :: others

/-- Directions are checked in all parts as soon as one character turns. -/
def areDirected (parts : List (List Char)) : Bool :=
  let turns := parts.any fun part => part.any fun character => (Direction.of character).turns
  !turns || parts.all isDirected

end NodeBridge.Url.Name
