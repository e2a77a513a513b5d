import NodeBridge.Text.Hidden

/-
This file quotes texts so that every character can be seen.
-/

namespace NodeBridge.Text

/-- A hidden character is shown by its number in hexadecimal. -/
def numericEscape (character : Char) : List Char :=
  '\\' :: 'u' :: '\x7b' :: Nat.toDigits 16 character.toNat ++ ['\x7d']

/-- Six characters have short escapes, hidden ones are numbered, and the others are kept. -/
def debugEscape (character : Char) : List Char :=
  if character = '"' then ['\\', '"']
  else if character = '\\' then ['\\', '\\']
  else if character = '\n' then ['\\', 'n']
  else if character = '\r' then ['\\', 'r']
  else if character = '\t' then ['\\', 't']
  else if character.toNat = 0 then ['\\', '0']
  else if isHidden character then numericEscape character
  else [character]

def debugQuote (source : String) : String :=
  String.ofList ('"' :: source.toList.flatMap debugEscape ++ ['"'])

end NodeBridge.Text
