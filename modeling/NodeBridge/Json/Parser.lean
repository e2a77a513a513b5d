import NodeBridge.Json.Basic
import NodeBridge.Hex

/-
This file reads JSON texts.
The reader is total: nesting is bounded by the length of the text.
-/

namespace NodeBridge.Json

/-- Four characters may stand between the parts of a text. -/
def skipBlanks : List Char → List Char
  | character :: rest =>
      if character = ' ' ∨ character = '\t' ∨ character = '\n' ∨ character = '\r'
      then skipBlanks rest else character :: rest
  | [] => []

/-- A unit is written as four hexadecimal digits. -/
def unit? (first second third fourth : Char) : Option Nat := do
  let a ← Hex.value? first
  let b ← Hex.value? second
  let c ← Hex.value? third
  let d ← Hex.value? fourth
  return ((a * 16 + b) * 16 + c) * 16 + d

def shortEscape? : Char → Option Char
  | '"' => some '"'
  | '\\' => some '\\'
  | '/' => some '/'
  | 'b' => some (Char.ofNat 8)
  | 'f' => some (Char.ofNat 12)
  | 'n' => some '\n'
  | 'r' => some '\r'
  | 't' => some '\t'
  | _ => none

/-- A high unit waits for the low unit of its pair, and a unit alone is refused. -/
def readText (waiting : Option Nat) : List Char → Option (List Char × List Char)
  | '\\' :: 'u' :: a :: b :: c :: d :: rest => do
      let unit ← unit? a b c d
      match waiting with
      | some high =>
          if 0xDC00 ≤ unit ∧ unit ≤ 0xDFFF then
            let point := 0x10000 + (high - 0xD800) * 1024 + (unit - 0xDC00)
            let (characters, suffix) ← readText none rest
            return (Char.ofNat point :: characters, suffix)
          else none
      | none =>
          if 0xD800 ≤ unit ∧ unit ≤ 0xDBFF then readText (some unit) rest
          else if 0xDC00 ≤ unit ∧ unit ≤ 0xDFFF then none
          else
            let (characters, suffix) ← readText none rest
            return (Char.ofNat unit :: characters, suffix)
  | '\\' :: mark :: rest => do
      if waiting.isSome then none
      let character ← shortEscape? mark
      let (characters, suffix) ← readText none rest
      return (character :: characters, suffix)
  | '"' :: rest => if waiting.isSome then none else some ([], rest)
  | character :: rest => do
      if waiting.isSome ∨ character.toNat < 32 ∨ character = '\\' then none
      let (characters, suffix) ← readText none rest
      return (character :: characters, suffix)
  | [] => none

def isDigit (character : Char) : Bool := '0' ≤ character && character ≤ '9'

/-- A run of digits is split off, and it may be empty. -/
def takeDigits (source : List Char) : List Char × List Char :=
  (source.takeWhile isDigit, source.dropWhile isDigit)

def digitsValue (digits : List Char) : Nat :=
  digits.foldl (fun number digit => 10 * number + (digit.toNat - 48)) 0

/-- A fraction has at least one digit. -/
def takeFraction : List Char → Option (List Char × List Char)
  | '.' :: rest =>
      let (digits, suffix) := takeDigits rest
      if digits.isEmpty then none else some ('.' :: digits, suffix)
  | source => some ([], source)

/-- An exponent has an optional sign and at least one digit. -/
def takeExponent : List Char → Option (List Char × List Char)
  | mark :: rest =>
      if mark = 'e' ∨ mark = 'E' then
        let (sign, body) := match rest with
          | '+' :: body => (['+'], body)
          | '-' :: body => (['-'], body)
          | body => ([], body)
        let (digits, suffix) := takeDigits body
        if digits.isEmpty then none else some (mark :: sign ++ digits, suffix)
      else some ([], mark :: rest)
  | [] => some ([], [])

/-- An integer out of range, a negative zero, a fraction and an exponent stay decimals. -/
def readNumber (source : List Char) : Option (Json × List Char) := do
  let (negative, body) := match source with
    | '-' :: body => (true, body)
    | body => (false, body)
  let (whole, afterWhole) := takeDigits body
  if whole.isEmpty then none
  if 1 < whole.length ∧ whole.head? = some '0' then none
  let (fraction, afterFraction) ← takeFraction afterWhole
  let (exponent, suffix) ← takeExponent afterFraction
  let sign := if negative then ['-'] else []
  let decimal := Json.decimal (String.ofList (sign ++ whole ++ fraction ++ exponent))
  let value := digitsValue whole
  if ¬ fraction.isEmpty ∨ ¬ exponent.isEmpty then return (decimal, suffix)
  if negative then
    if value = 0 ∨ Nat.pow 2 63 < value then return (decimal, suffix)
    return (.integer (-value), suffix)
  if UInt64.size ≤ value then return (decimal, suffix)
  return (.integer value, suffix)

/-- A word of letters stands for its value. -/
def takeWord (word : String) (value : Json) (source : List Char) : Option (Json × List Char) :=
  if word.toList.isPrefixOf source then some (value, source.drop word.length) else none

mutual

/-- The depth bounds the nesting that is still allowed. -/
def readValue : Nat → List Char → Option (Json × List Char)
  | 0, _ => none
  | depth + 1, source =>
      match skipBlanks source with
      | '"' :: rest => do
          let (characters, suffix) ← readText none rest
          return (.text (String.ofList characters), suffix)
      | '[' :: rest =>
          match skipBlanks rest with
          | ']' :: suffix => some (.list [], suffix)
          | _ => do
              let (items, suffix) ← readItems depth rest
              return (.list items, suffix)
      | '{' :: rest =>
          match skipBlanks rest with
          | '}' :: suffix => some (.object [], suffix)
          | _ => do
              let (members, suffix) ← readMembers depth [] rest
              return (.object members, suffix)
      | 'n' :: rest => takeWord "ull" .null rest
      | 't' :: rest => takeWord "rue" (.boolean true) rest
      | 'f' :: rest => takeWord "alse" (.boolean false) rest
      | trimmed => readNumber trimmed

/-- Items are separated by commas, and the last one is followed by the bracket. -/
def readItems : Nat → List Char → Option (List Json × List Char)
  | 0, _ => none
  | depth + 1, source => do
      let (item, afterItem) ← readValue depth source
      match skipBlanks afterItem with
      | ',' :: rest => do
          let (items, suffix) ← readItems depth rest
          return (item :: items, suffix)
      | ']' :: suffix => return ([item], suffix)
      | _ => none

/-- A later member of the same name takes the place of the earlier one. -/
def readMembers : Nat → List (String × Json) → List Char →
    Option (List (String × Json) × List Char)
  | 0, _, _ => none
  | depth + 1, members, source =>
      match skipBlanks source with
      | '"' :: rest => do
          let (characters, afterKey) ← readText none rest
          match skipBlanks afterKey with
          | ':' :: afterColon => do
              let (value, afterValue) ← readValue depth afterColon
              let known := put (String.ofList characters) value members
              match skipBlanks afterValue with
              | ',' :: suffix => readMembers depth known suffix
              | '}' :: suffix => return (known, suffix)
              | _ => none
          | _ => none
      | _ => none

end

/-- A text is one value with blanks around it. -/
def parse? (source : String) : Option Json := do
  let characters := source.toList
  let (value, suffix) ← readValue (2 * characters.length + 2) characters
  if (skipBlanks suffix).isEmpty then some value else none

end NodeBridge.Json
