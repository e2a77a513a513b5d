import NodeBridge.Toml.Scalar

/-
This file reads whole TOML documents of version 1.0.
The reader is total: the length of the text bounds its lines and its nesting.
-/

namespace NodeBridge.Toml

open Reader

def skipBlanks : Reader Unit := do
  let _ ← takeWhile isBlank

/-- A comment runs to the end of its line. -/
def comment : Reader Unit := do
  expect '#'
  let _ ← takeWhile isPlain

def lineEnd : Reader Unit := fun source =>
  match source with
  | '\n' :: rest => some ((), rest)
  | '\r' :: '\n' :: rest => some ((), rest)
  | _ => none

def endOfText : Reader Unit := fun source =>
  match source with
  | [] => some ((), [])
  | _ => none

/-- After its content a line may have a comment and then has to end. -/
def finishLine : Reader Unit := do
  skipBlanks
  let _ ← attempt comment
  orElse lineEnd endOfText

def isBareKey (character : Char) : Bool :=
  character.isAlphanum || character = '-' || character = '_'

/-- A key is bare or quoted on one line. -/
def simpleKey : Reader String := do
  let first ← peek
  if first = some '"' ∨ first = some '\'' then shortText
  else
    let characters ← takeWhile isBareKey
    if characters.isEmpty then fail else return String.ofList characters

/-- Dots separate the parts of a key, with blanks around them. -/
def dottedKey : Nat → Reader (List String)
  | 0 => fail
  | steps + 1 => do
      skipBlanks
      let key ← simpleKey
      skipBlanks
      if ← accept '.' then
        let keys ← dottedKey steps
        return key :: keys
      else return [key]

/-- Items of an array may be separated by blanks, line ends and comments. -/
def skipFiller : Nat → Reader Unit
  | 0 => fail
  | steps + 1 => do
      skipBlanks
      let first ← peek
      match first with
      | some '#' => do comment; lineEnd; skipFiller steps
      | some '\n' => do lineEnd; skipFiller steps
      | some '\r' => do lineEnd; skipFiller steps
      | _ => return ()

mutual

/-- The count of steps bounds the nesting and the length. -/
def value : Nat → Reader Toml
  | 0 => fail
  | steps + 1 => do
      let first ← peek
      match first with
      | some '[' => do
          expect '['
          let items ← arrayItems steps
          return .list items
      | some '{' => do
          expect '{'
          skipBlanks
          if ← accept '}' then return .table .inline []
          let members ← inlineMembers steps []
          return .table .inline members
      | _ => scalar

/-- A comma may follow the last item. -/
def arrayItems : Nat → Reader (List Toml)
  | 0 => fail
  | steps + 1 => do
      skipFiller steps
      if ← accept ']' then return []
      let item ← value steps
      skipFiller steps
      if ← accept ',' then
        let items ← arrayItems steps
        return item :: items
      else
        expect ']'
        return [item]

/-- No comma may follow the last member. -/
def inlineMembers : Nat → Members → Reader Members
  | 0, _ => fail
  | steps + 1, members => do
      let key ← dottedKey steps
      expect '='
      skipBlanks
      let item ← value steps
      skipBlanks
      let name ← StateT.lift key.getLast?
      let (_, known) ← StateT.lift (addDotted key.dropLast name item .inline members)
      if ← accept ',' then inlineMembers steps known
      else
        expect '}'
        return known

end

/-- A header stands between brackets, and doubled brackets add an element. -/
def header (steps : Nat) : Reader (Bool × List String) := do
  expect '['
  let element ← accept '['
  let path ← dottedKey steps
  expect ']'
  if element then expect ']'
  return (element, path)

/-- A line is empty, a comment, a header or a key with its value. -/
def line (steps : Nat) (document : Document) : Reader Document := do
  skipBlanks
  let first ← peek
  match first with
  | none => return document
  | some '#' => do finishLine; return document
  | some '\n' => do lineEnd; return document
  | some '\r' => do lineEnd; return document
  | some '[' => do
      let (element, path) ← header steps
      finishLine
      StateT.lift (document.openTable element path)
  | some _ => do
      let key ← dottedKey steps
      expect '='
      skipBlanks
      let item ← value steps
      finishLine
      StateT.lift (document.add key item)

/-- Every line takes at least one character, so as many lines as characters are enough. -/
def readLines (steps : Nat) : Nat → Document → List Char → Option Document
  | _, document, [] => some document
  | 0, _, _ => none
  | count + 1, document, source => do
      let (next, rest) ← line steps document source
      readLines steps count next rest

/-- A byte order mark at the start is skipped. -/
def dropByteOrderMark : List Char → List Char
  | first :: rest => if first.toNat = 0xFEFF then rest else first :: rest
  | [] => []

/-- The members of a document are those of its root table. -/
def parse? (source : String) : Option Members :=
  let characters := dropByteOrderMark source.toList
  (readLines (characters.length + 1) (characters.length + 1) {} characters).map Document.root

end NodeBridge.Toml
