import NodeBridge.Hex

/-
This file reads and writes the socket addresses that a listener is bound to.
An address is written with its port, and IPv6 addresses stand in brackets.
-/

namespace NodeBridge.Network

/-- The parts of an IPv6 address are eight groups, and its scope is a number. -/
inductive SocketAddress where
  | ipv4 (octets : List Nat) (port : Nat)
  | ipv6 (groups : List Nat) (scope port : Nat)
  deriving DecidableEq

namespace SocketAddress

/-- All digits are read, and a number of too many digits or above its bound is refused. -/
def number? (radix : Nat) (width : Option Nat) (leadingZeros : Bool) (bound : Nat)
    (source : List Char) : Option (Nat × List Char) :=
  let isDigit (character : Char) : Bool :=
    match Hex.value? character with
    | some value => value < radix
    | none => false
  let digits := source.takeWhile isDigit
  let value := digits.foldl (fun total digit => radix * total + (Hex.value? digit).getD 0) 0
  let tooLong : Bool := match width with
    | some limit => limit < digits.length
    | none => false
  if digits.isEmpty ∨ tooLong ∨ bound ≤ value then none
  else if !leadingZeros ∧ digits.head? = some '0' ∧ 1 < digits.length then none
  else some (value, source.dropWhile isDigit)

def character? (expected : Char) : List Char → Option (List Char)
  | first :: rest => if first = expected then some rest else none
  | [] => none

/-- An octet has up to three digits and no leading zero. -/
def octets? : Nat → List Char → Option (List Nat × List Char)
  | 0, source => some ([], source)
  | count + 1, source => do
      let (octet, afterOctet) ← number? 10 (some 3) false 256 source
      let next ← if count = 0 then some afterOctet else character? '.' afterOctet
      let (octets, rest) ← octets? count next
      return (octet :: octets, rest)

/-- The groups after the first one follow a colon. -/
def separated? (isFirst : Bool) (source : List Char) : Option (List Char) :=
  if isFirst then some source else character? ':' source

/-- Up to the limit groups are read, and four octets may stand for the last two of them. -/
def groups (isFirst : Bool) : Nat → List Char → (List Nat × Bool) × List Char
  | 0, source => (([], false), source)
  | limit + 1, source =>
      let embedded := if limit = 0 then none else separated? isFirst source >>= octets? 4
      match embedded with
      | some ([first, second, third, fourth], rest) =>
          (([256 * first + second, 256 * third + fourth], true), rest)
      | _ =>
          match separated? isFirst source >>= number? 16 (some 4) true 65536 with
          | none => (([], false), source)
          | some (group, afterGroup) =>
              let ((others, hasOctets), rest) := groups false limit afterGroup
              ((group :: others, hasOctets), rest)

/-- Two colons stand for at least one group of zeros. -/
def ipv6Groups? (source : List Char) : Option (List Nat × List Char) :=
  let ((head, hasOctets), afterHead) := groups true 8 source
  if head.length = 8 then some (head, afterHead)
  else if hasOctets then none
  else do
    let afterColons ← character? ':' afterHead >>= character? ':'
    let ((tail, _), rest) := groups true (7 - head.length) afterColons
    return (head ++ List.replicate (8 - head.length - tail.length) 0 ++ tail, rest)

def port? (source : List Char) : Option Nat :=
  match character? ':' source >>= number? 10 none true 65536 with
  | some (port, []) => some port
  | _ => none

/-- A scope follows a percent sign and may be left out. -/
def scope? : List Char → Option (Nat × List Char)
  | '%' :: source => number? 10 none true UInt32.size source
  | source => some (0, source)

def parse? (source : String) : Option SocketAddress :=
  match source.toList with
  | '[' :: inner => do
      let (groups, afterGroups) ← ipv6Groups? inner
      let (scope, afterScope) ← scope? afterGroups
      let port ← character? ']' afterScope >>= port?
      return .ipv6 groups scope port
  | characters => do
      let (octets, afterOctets) ← octets? 4 characters
      let port ← port? afterOctets
      return .ipv4 octets port

def octetsText (octets : List Nat) : String :=
  String.intercalate "." (octets.map toString)

def groupText (group : Nat) : String := String.ofList (Nat.toDigits 16 group)

/-- This is the length of the run of zeros at the front. -/
def zeroRun (groups : List Nat) : Nat := (groups.takeWhile (· = 0)).length

/-- The first of the longest runs of zeros is given by its place and its length. -/
def longestRun : Nat → List Nat → Nat × Nat
  | _, [] => (0, 0)
  | place, group :: rest =>
      let here := zeroRun (group :: rest)
      let later := longestRun (place + 1) rest
      if later.2 ≤ here then (place, here) else later

def joined (groups : List Nat) : String := String.intercalate ":" (groups.map groupText)

/-- A run of zeros is left out if it is longer than one group. -/
def groupsText (groups : List Nat) : String :=
  match groups with
  | [0, 0, 0, 0, 0, 0xFFFF, high, low] =>
      "::ffff:" ++ octetsText [high / 256, high % 256, low / 256, low % 256]
  | _ =>
      let (place, length) := longestRun 0 groups
      if length ≤ 1 then joined groups
      else joined (groups.take place) ++ "::" ++ joined (groups.drop (place + length))

def text : SocketAddress → String
  | .ipv4 octets port => octetsText octets ++ ":" ++ toString port
  | .ipv6 groups scope port =>
      let scopeText := if scope = 0 then "" else "%" ++ toString scope
      "[" ++ groupsText groups ++ scopeText ++ "]:" ++ toString port

/-- A listener can be bound to these addresses on every machine. -/
def isLocal : SocketAddress → Bool
  | .ipv4 octets _ => octets.head? = some 127 || octets.all (· = 0)
  | .ipv6 groups _ _ => groups.dropLast.all (· = 0) && (groups.getLast?).getD 0 ≤ 1

end SocketAddress

end NodeBridge.Network
