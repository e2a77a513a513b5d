import NodeBridge.Toml.Basic
import NodeBridge.Hex

/-
This file reads the values of a TOML document that have no parts.
-/

namespace NodeBridge.Toml

/-- A reader takes a beginning of the text and leaves the rest. -/
abbrev Reader := StateT (List Char) Option

namespace Reader

def fail {A : Type} : Reader A := fun _ => none

def peek : Reader (Option Char) := fun source => some (source.head?, source)

/-- The longest run of fitting characters is taken, and it may be empty. -/
def takeWhile (fits : Char → Bool) : Reader (List Char) := fun source =>
  some (source.takeWhile fits, source.dropWhile fits)

def expect (mark : Char) : Reader Unit := fun source =>
  match source with
  | character :: rest => if character = mark then some ((), rest) else none
  | [] => none

/-- The mark is taken if it comes next. -/
def accept (mark : Char) : Reader Bool := fun source =>
  match source with
  | character :: rest => if character = mark then some (true, rest) else some (false, source)
  | [] => some (false, [])

/-- A reader that does not fit takes nothing. -/
def attempt {A : Type} (reader : Reader A) : Reader (Option A) := fun source =>
  match reader source with
  | some (value, rest) => some (some value, rest)
  | none => some (none, source)

/-- The first reader that fits is the one that counts. -/
def orElse {A : Type} (first second : Reader A) : Reader A := fun source =>
  match first source with
  | some result => some result
  | none => second source

/-- A word is taken as a whole. -/
def word (expected : String) : Reader Unit := fun source =>
  if expected.toList.isPrefixOf source then some ((), source.drop expected.length) else none

/-- This reader returns the characters that another reader takes. -/
def spanOf {A : Type} (reader : Reader A) : Reader (List Char) := fun source =>
  match reader source with
  | some (_, rest) => some (source.take (source.length - rest.length), rest)
  | none => none

end Reader

open Reader

def isDigit (character : Char) : Bool := '0' ≤ character && character ≤ '9'

def digitValue (character : Char) : Nat := character.toNat - 48

def numberOf (digits : List Char) : Nat :=
  digits.foldl (fun number digit => 10 * number + digitValue digit) 0

/-- Control characters other than the tab cannot stand in a text or a comment. -/
def isPlain (character : Char) : Bool :=
  character = '\t' || (32 ≤ character.toNat && character.toNat ≠ 127)

/-- A code point is written with a fixed count of hexadecimal digits. -/
def codePoint? (digits : List Char) : Option Char := do
  let number ← digits.foldlM (fun number digit => (Hex.value? digit).map (16 * number + ·)) 0
  if number < 0xD800 ∨ (0xDFFF < number ∧ number < 0x110000) then some (Char.ofNat number) else none

def shortEscape? : Char → Option Char
  | 'b' => some (Char.ofNat 8)
  | 't' => some '\t'
  | 'n' => some '\n'
  | 'f' => some (Char.ofNat 12)
  | 'r' => some '\r'
  | '"' => some '"'
  | '\\' => some '\\'
  | _ => none

/-- The text ends at the quote, and a backslash begins an escape. -/
def readBasic : List Char → Option (List Char × List Char)
  | [] => none
  | '"' :: rest => some ([], rest)
  | '\\' :: 'u' :: a :: b :: c :: d :: rest => do
      let character ← codePoint? [a, b, c, d]
      let (characters, suffix) ← readBasic rest
      return (character :: characters, suffix)
  | '\\' :: 'U' :: a :: b :: c :: d :: e :: f :: g :: h :: rest => do
      let character ← codePoint? [a, b, c, d, e, f, g, h]
      let (characters, suffix) ← readBasic rest
      return (character :: characters, suffix)
  | '\\' :: mark :: rest => do
      let character ← shortEscape? mark
      let (characters, suffix) ← readBasic rest
      return (character :: characters, suffix)
  | character :: rest => do
      if character = '\\' ∨ !isPlain character then none
      let (characters, suffix) ← readBasic rest
      return (character :: characters, suffix)

/-- Nothing is escaped between single quotes. -/
def readLiteral : List Char → Option (List Char × List Char)
  | [] => none
  | '\'' :: rest => some ([], rest)
  | character :: rest => do
      if !isPlain character then none
      let (characters, suffix) ← readLiteral rest
      return (character :: characters, suffix)

def isBlank (character : Char) : Bool := character = ' ' || character = '\t'

/-- Blanks and line ends are skipped, and a carriage return needs its line feed. -/
def skipLines : List Char → List Char
  | '\n' :: rest => skipLines rest
  | '\r' :: '\n' :: rest => skipLines rest
  | ' ' :: rest => skipLines rest
  | '\t' :: rest => skipLines rest
  | source => source

/-- A backslash before a line end removes everything up to the next visible character. -/
def afterFold? (source : List Char) : Option (List Char) :=
  match source.dropWhile isBlank with
  | '\n' :: rest => some (skipLines rest)
  | '\r' :: '\n' :: rest => some (skipLines rest)
  | _ => none

/-- A run of up to five quotes ends the text, and those beyond the last three belong to it. -/
def endingQuotes? (quote : Char) (source : List Char) : Option (List Char × List Char) :=
  let count := (source.takeWhile (· = quote)).length
  if 3 ≤ count ∧ count ≤ 5 then some (List.replicate (count - 3) quote, source.drop count)
  else none

/-- Runs of three quotes or more end the text, and line ends become line feeds. -/
def readLongBasic : Nat → List Char → Option (List Char × List Char)
  | 0, _ => none
  | steps + 1, source =>
      let keep (character : Char) (rest : List Char) : Option (List Char × List Char) := do
        let (characters, suffix) ← readLongBasic steps rest
        return (character :: characters, suffix)
      match source with
      | [] => none
      | '"' :: '"' :: '"' :: _ => endingQuotes? '"' source
      | '"' :: rest => keep '"' rest
      | '\n' :: rest => keep '\n' rest
      | '\r' :: '\n' :: rest => keep '\n' rest
      | '\\' :: rest =>
          match afterFold? rest with
          | some folded => readLongBasic steps folded
          | none =>
              match rest with
              | 'u' :: a :: b :: c :: d :: suffix =>
                  (codePoint? [a, b, c, d]).bind fun character => keep character suffix
              | 'U' :: a :: b :: c :: d :: e :: f :: g :: h :: suffix =>
                  (codePoint? [a, b, c, d, e, f, g, h]).bind fun character => keep character suffix
              | mark :: suffix => (shortEscape? mark).bind fun character => keep character suffix
              | [] => none
      | character :: rest => if isPlain character then keep character rest else none

def readLongLiteral : Nat → List Char → Option (List Char × List Char)
  | 0, _ => none
  | steps + 1, source =>
      let keep (character : Char) (rest : List Char) : Option (List Char × List Char) := do
        let (characters, suffix) ← readLongLiteral steps rest
        return (character :: characters, suffix)
      match source with
      | [] => none
      | '\'' :: '\'' :: '\'' :: _ => endingQuotes? '\'' source
      | '\n' :: rest => keep '\n' rest
      | '\r' :: '\n' :: rest => keep '\n' rest
      | character :: rest => if isPlain character then keep character rest else none

/-- The line end right after the opening quotes does not belong to the text. -/
def dropFirstLineEnd : List Char → List Char
  | '\n' :: rest => rest
  | '\r' :: '\n' :: rest => rest
  | source => source

/-- A text on one line stands between two quotes of its kind. -/
def shortText : Reader String := fun source =>
  match source with
  | '"' :: rest => (readBasic rest).map fun result => (String.ofList result.1, result.2)
  | '\'' :: rest => (readLiteral rest).map fun result => (String.ofList result.1, result.2)
  | _ => none

/-- Three quotes open a text that may run over several lines. -/
def readText : Reader String := fun source =>
  match source with
  | '"' :: '"' :: '"' :: rest =>
      let body := dropFirstLineEnd rest
      (readLongBasic (body.length + 1) body).map fun result => (String.ofList result.1, result.2)
  | '\'' :: '\'' :: '\'' :: rest =>
      let body := dropFirstLineEnd rest
      (readLongLiteral (body.length + 1) body).map fun result =>
        (String.ofList result.1, result.2)
  | _ => shortText source

/-- Single underscores may stand between two digits. -/
def moreDigits (fits : Char → Bool) : List Char → List Char × List Char
  | '_' :: digit :: rest =>
      if fits digit then
        let (digits, suffix) := moreDigits fits rest
        (digit :: digits, suffix)
      else ([], '_' :: digit :: rest)
  | digit :: rest =>
      if fits digit then
        let (digits, suffix) := moreDigits fits rest
        (digit :: digits, suffix)
      else ([], digit :: rest)
  | [] => ([], [])

/-- A run of digits begins with a digit. -/
def digitRun (fits : Char → Bool) : Reader (List Char) := fun source =>
  match source with
  | digit :: rest =>
      if fits digit then
        let (digits, suffix) := moreDigits fits rest
        some (digit :: digits, suffix)
      else none
  | [] => none

def sign : Reader (Option Char) := fun source =>
  match source with
  | '+' :: rest => some (some '+', rest)
  | '-' :: rest => some (some '-', rest)
  | _ => some (none, source)

/-- A decimal whole number has no leading zero. -/
def wholeDigits : Reader (List Char) := fun source =>
  match source with
  | '0' :: rest => some (['0'], rest)
  | _ => digitRun isDigit source

/-- Integers have 64 bits with a sign. -/
def checked? (value : Int) : Option Toml :=
  if Int64.minValue.toInt ≤ value ∧ value ≤ Int64.maxValue.toInt then some (.integer value)
  else none

def isBaseDigit (base : Nat) (character : Char) : Bool :=
  match Hex.value? character with
  | some value => decide (value < base)
  | none => false

/-- A number in another base has a marker and no sign. -/
def basedInteger (base : Nat) : Reader Toml := do
  let digits ← digitRun (isBaseDigit base)
  let number := digits.foldl (fun number digit => base * number + (Hex.value? digit).getD 0) 0
  StateT.lift (checked? number)

def readInteger : Reader Toml := fun source =>
  match source with
  | '0' :: 'x' :: rest => basedInteger 16 rest
  | '0' :: 'o' :: rest => basedInteger 8 rest
  | '0' :: 'b' :: rest => basedInteger 2 rest
  | _ =>
      (do
        let mark ← sign
        let digits ← wholeDigits
        let number : Int := numberOf digits
        StateT.lift (checked? (if mark = some '-' then -number else number)) : Reader Toml) source

/-- From this number on a positive decimal rounds to infinity. -/
def overflowBound : Nat := Nat.pow 2 1024 - Nat.pow 2 970

/-- The digits are those of a number that is scaled by a power of ten. -/
def isFinite (digits : List Char) (scale : Int) : Bool :=
  let significant := digits.dropWhile (· = '0')
  let magnitude : Int := significant.length + scale
  if significant.isEmpty ∨ magnitude < 309 then true
  else if 310 < magnitude then false
  else
    let number := numberOf significant
    if 0 ≤ scale then number * Nat.pow 10 scale.toNat < overflowBound
    else number < overflowBound * Nat.pow 10 (-scale).toNat

/-- A fraction or an exponent makes a decimal, and one that rounds to positive infinity is refused. -/
def decimalValue : Reader Unit := do
  let mark ← sign
  let whole ← wholeDigits
  let fraction ← attempt (do expect '.'; digitRun isDigit)
  let exponent ← attempt (do
    let letter ← peek
    if letter = some 'e' ∨ letter = some 'E' then
      expect (letter.getD 'e')
      let power ← sign
      let digits ← digitRun isDigit
      let number : Int := numberOf digits
      return if power = some '-' then -number else number
    else fail)
  if fraction.isNone ∧ exponent.isNone then fail
  let part := fraction.getD []
  let scale : Int := exponent.getD 0 - part.length
  if mark ≠ some '-' ∧ !isFinite (whole ++ part) scale then fail

/-- The words for infinity and for no number may carry a sign. -/
def specialDecimal : Reader Unit := do
  let _ ← sign
  orElse (word "inf") (word "nan")

def readDecimal : Reader Toml := do
  let source ← spanOf (orElse decimalValue specialDecimal)
  return .decimal (String.ofList source)

/-- A part of a date or a time has a fixed count of digits and a range. -/
def digitsWithin (count least most : Nat) : Reader Nat := fun source =>
  let digits := source.take count
  let number := numberOf digits
  if digits.length = count ∧ digits.all isDigit ∧ least ≤ number ∧ number ≤ most then
    some (number, source.drop count)
  else none

def isLeapYear (year : Nat) : Bool :=
  year % 4 = 0 && (year % 100 ≠ 0 || year % 400 = 0)

def daysIn (year month : Nat) : Nat :=
  if month = 2 then if isLeapYear year then 29 else 28
  else if month = 4 ∨ month = 6 ∨ month = 9 ∨ month = 11 then 30
  else 31

def date : Reader Unit := do
  let year ← digitsWithin 4 0 9999
  expect '-'
  let month ← digitsWithin 2 1 12
  expect '-'
  let _ ← digitsWithin 2 1 (daysIn year month)

/-- A minute may have a leap second, and a fraction has any count of digits. -/
def time : Reader Unit := do
  let _ ← digitsWithin 2 0 23
  expect ':'
  let _ ← digitsWithin 2 0 59
  expect ':'
  let _ ← digitsWithin 2 0 60
  let _ ← attempt (do
    expect '.'
    let digits ← takeWhile isDigit
    if digits.isEmpty then fail)

def offset : Reader Unit := do
  let mark ← peek
  match mark with
  | some 'Z' => expect 'Z'
  | some 'z' => expect 'z'
  | some '+' => do expect '+'; let _ ← digitsWithin 2 0 23; expect ':'; let _ ← digitsWithin 2 0 59
  | some '-' => do expect '-'; let _ ← digitsWithin 2 0 23; expect ':'; let _ ← digitsWithin 2 0 59
  | _ => fail

/-- A date may be followed by a time, and a time after a date may have an offset. -/
def readMoment : Reader Toml := do
  let source ← spanOf (orElse
    (do
      date
      let _ ← attempt (do
        let mark ← peek
        if mark = some 'T' ∨ mark = some 't' ∨ mark = some ' ' then
          expect (mark.getD 'T')
          time
          let _ ← attempt offset
        else fail))
    time)
  return .moment (String.ofList source)

/-- The first character chooses among the values without parts. -/
def scalar : Reader Toml := do
  let first ← peek
  match first with
  | some '"' => do let value ← readText; return .text value
  | some '\'' => do let value ← readText; return .text value
  | some 't' => do word "true"; return .boolean true
  | some 'f' => do word "false"; return .boolean false
  | some _ => orElse readMoment (orElse readDecimal readInteger)
  | none => fail

end NodeBridge.Toml
