/-
This file measures how much two words resemble each other.
The measure counts common letters that stand close together and letters that changed places.
-/

namespace NodeBridge.CommandLine

/-- Letters are common only if their places differ by at most this much. -/
def reach (first second : List Char) : Nat := max first.length second.length / 2 - 1

/-- A letter takes the first free partner whose place is in reach. -/
def partner? (letter : Char) (place span : Nat) (second : List Char) (taken : List Nat) :
    Option Nat :=
  (List.range second.length).find? fun other =>
    second[other]? = some letter && place ≤ other + span && other ≤ place + span &&
      !taken.contains other

/-- The common letters of the first word come with the places of their partners. -/
def commonLetters (span : Nat) (second : List Char) :
    Nat → List Char → List Nat → List Char × List Nat
  | _, [], taken => ([], taken)
  | place, letter :: rest, taken =>
      match partner? letter place span second taken with
      | some other =>
          let (letters, last) := commonLetters span second (place + 1) rest (other :: taken)
          (letter :: letters, last)
      | none => commonLetters span second (place + 1) rest taken

/-- A similarity is a fraction, written as its numerator and its denominator. -/
structure Similarity where
  numerator : Nat
  denominator : Nat

/-- Every two common letters in a different order count as one transposition. -/
def Similarity.ofWords (first second : List Char) : Similarity :=
  let (letters, taken) := commonLetters (reach first second) second 0 first []
  let places := (List.range second.length).filter fun place => taken.contains place
  let partners := places.filterMap fun place => second[place]?
  let count := letters.length
  let changed := ((letters.zip partners).filter fun pair => pair.1 ≠ pair.2).length / 2
  if count = 0 then ⟨0, 1⟩
  else
    let width := first.length
    let otherWidth := second.length
    ⟨count * count * otherWidth + count * count * width + (count - changed) * width * otherWidth,
      3 * count * width * otherWidth⟩

/-- Words are similar from more than seven tenths on. -/
def Similarity.isHigh (similarity : Similarity) : Bool :=
  7 * similarity.denominator < 10 * similarity.numerator

def Similarity.atMost (first second : Similarity) : Bool :=
  first.numerator * second.denominator ≤ second.numerator * first.denominator

/-- Of the candidates that are similar enough the most similar one is chosen, and the last of equals. -/
def closest? (word : String) (candidates : List String) : Option String :=
  let rated := candidates.map fun candidate =>
    (candidate, Similarity.ofWords word.toList candidate.toList)
  let best := (rated.filter fun entry => entry.2.isHigh).foldl
    (fun best entry =>
      match best with
      | none => some entry
      | some other => if other.2.atMost entry.2 then some entry else some other)
    none
  best.map Prod.fst

end NodeBridge.CommandLine
