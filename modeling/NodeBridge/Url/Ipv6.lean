import NodeBridge.Url.Ipv4

/-
This file reads IPv6 hosts, which stand between brackets.
One double colon stands for at least one group of zeros.
-/

namespace NodeBridge.Url

/-- An IPv6 host is a number of 128 bits. -/
abbrev Ipv6 := BitVec 128

namespace Ipv6

/-- A group has one to four hexadecimal digits. -/
def group? (source : List Char) : Option Nat :=
  if source.isEmpty ∨ 4 < source.length then none else Ipv4.digits? 16 source

/-- A decimal byte has no leading zero. -/
def byte? (source : List Char) : Option Nat :=
  if source.isEmpty ∨ 3 < source.length ∨ (1 < source.length ∧ source.head? = some '0') then none
  else do
    let value ← Ipv4.digits? 10 source
    if value < 256 then some value else none

/-- Four dotted bytes stand for the last two groups. -/
def dotted? (source : List Char) : Option (List Nat) := do
  let bytes ← (Ipv4.splitOn '.' source).mapM byte?
  match bytes with
  | [a, b, c, d] => some [256 * a + b, 256 * c + d]
  | _ => none

/-- The last group of all may be dotted. -/
def groups? (last : Bool) : List (List Char) → Option (List Nat)
  | [] => some []
  | [source] =>
      if last && source.contains '.' then dotted? source
      else (group? source).map fun group => [group]
  | source :: rest => do
      let group ← group? source
      let groups ← groups? last rest
      return group :: groups

/-- The text is cut at its first double colon. -/
def splitDouble : List Char → Option (List Char × List Char)
  | ':' :: ':' :: rest => some ([], rest)
  | character :: rest => (splitDouble rest).map fun parts => (character :: parts.1, parts.2)
  | [] => none

/-- An empty side of the double colon has no groups. -/
def side? (last : Bool) (source : List Char) : Option (List Nat) :=
  if source.isEmpty then some [] else groups? last (Ipv4.splitOn ':' source)

def ofGroups (groups : List Nat) : Ipv6 :=
  BitVec.ofNat 128 (groups.foldl (fun number group => 65536 * number + group) 0)

/-- Without a double colon there are eight groups, and with one there are at most seven. -/
def parse? (source : List Char) : Option Ipv6 :=
  match splitDouble source with
  | some (left, right) => do
      let head ← side? false left
      let tail ← side? true right
      if 7 < head.length + tail.length then none
      else some (ofGroups (head ++ List.replicate (8 - head.length - tail.length) 0 ++ tail))
  | none => do
      let groups ← groups? true (Ipv4.splitOn ':' source)
      if groups.length = 8 then some (ofGroups groups) else none

end Ipv6

end NodeBridge.Url
