import NodeBridge.Json.Basic
import NodeBridge.Hex

/-
This file writes JSON values without blanks.
-/

namespace NodeBridge.Json

/-- Five control characters have short escapes, and the others use four digits. -/
def escape (character : Char) : List Char :=
  if character = '"' then ['\\', '"']
  else if character = '\\' then ['\\', '\\']
  else if character = '\n' then ['\\', 'n']
  else if character = '\r' then ['\\', 'r']
  else if character = '\t' then ['\\', 't']
  else if character.toNat = 8 then ['\\', 'b']
  else if character.toNat = 12 then ['\\', 'f']
  else if character.toNat < 32 then
    '\\' :: 'u' :: '0' :: '0' :: Hex.ofByte (UInt8.ofNat character.toNat)
  else [character]

/-- Characters beyond the control characters are written as they are. -/
def quote (source : String) : String :=
  String.ofList ('"' :: source.toList.flatMap escape ++ ['"'])

mutual

/-- Members appear in their order, and nothing separates the parts but the marks. -/
def compact : Json → String
  | .null => "null"
  | .boolean value => if value then "true" else "false"
  | .integer value => toString value
  | .decimal source => source
  | .text value => quote value
  | .list items => "[" ++ String.intercalate "," (compactItems items) ++ "]"
  | .object members => "\x7b" ++ String.intercalate "," (compactMembers members) ++ "\x7d"

def compactItems : List Json → List String
  | [] => []
  | item :: rest => compact item :: compactItems rest

def compactMember : String × Json → String
  | (key, value) => quote key ++ ":" ++ compact value

def compactMembers : List (String × Json) → List String
  | [] => []
  | member :: rest => compactMember member :: compactMembers rest

end

end NodeBridge.Json
