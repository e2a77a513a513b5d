import NodeBridge.Url.Ipv6
import NodeBridge.Url.Name

/-
This file reads the URLs that lead to a host.
Only the schemes that always have a host are read: ftp, http, https, ws and wss.
-/

namespace NodeBridge

/-- These schemes name a host after the colon, with or without slashes. -/
inductive Url.Scheme where
  | ftp
  | http
  | https
  | ws
  | wss
  deriving DecidableEq

/-- A host is an address or a name. -/
inductive Url.Host where
  | ipv4 (address : Url.Ipv4)
  | ipv6 (address : Url.Ipv6)
  | name (characters : List Char)
  deriving DecidableEq

/-- What follows the port is kept as it was written. -/
structure Url where
  scheme : Url.Scheme
  host : Url.Host
  port : Option UInt16
  rest : List Char
  deriving DecidableEq

namespace Url

/-- Blanks and control characters at both ends do not belong to a URL. -/
def isEdge (character : Char) : Bool := character.toNat ≤ 32

/-- Tabs and line ends are dropped wherever they stand. -/
def isDropped (character : Char) : Bool :=
  character = '\t' || character = '\n' || character = '\r'

/-- Cleaning trims both ends first and then drops tabs and line ends. -/
def clean (source : List Char) : List Char :=
  let trimmed := ((source.dropWhile isEdge).reverse.dropWhile isEdge).reverse
  trimmed.filter fun character => !isDropped character

/-- A scheme starts with a letter and ends at the colon. -/
def splitScheme? (source : List Char) : Option (List Char × List Char) :=
  let isPart (character : Char) : Bool :=
    character.isAlphanum || character = '+' || character = '-' || character = '.'
  let scheme := source.takeWhile isPart
  match source.dropWhile isPart with
  | ':' :: rest =>
      if (scheme.head?.map Char.isAlpha).getD false then some (scheme.map Char.toLower, rest)
      else none
  | _ => none

def Scheme.ofName? (name : List Char) : Option Scheme :=
  match String.ofList name with
  | "ftp" => some .ftp
  | "http" => some .http
  | "https" => some .https
  | "ws" => some .ws
  | "wss" => some .wss
  | _ => none

/-- A backslash counts as a slash. -/
def isSlash (character : Char) : Bool := character = '/' || character = '\\'

def endsAuthority (character : Char) : Bool :=
  isSlash character || character = '?' || character = '#'

/-- The user information ends at the last at sign before the path. -/
def dropUser? (authority : List Char) : Option (List Char) :=
  if authority.contains '@' then
    let host := (authority.reverse.takeWhile (· ≠ '@')).reverse
    if host.isEmpty then none else some host
  else some authority

/-- The colon of the port stands outside the brackets. -/
def splitPort (inside : Bool) : List Char → List Char × Option (List Char)
  | [] => ([], none)
  | ':' :: rest =>
      if inside then
        let (host, port) := splitPort inside rest
        (':' :: host, port)
      else ([], some rest)
  | character :: rest =>
      let (host, port) := splitPort
        (if character = '[' then true else if character = ']' then false else inside) rest
      (character :: host, port)

/-- The port is a decimal number of 16 bits, and a colon may have no port. -/
def port? (digits : List Char) : Option (Option UInt16) :=
  if digits.isEmpty then some none
  else if digits.all (fun digit => '0' ≤ digit && digit ≤ '9') then do
    let number ← Ipv4.digits? 10 digits
    if number < 65536 then some (some (UInt16.ofNat number)) else none
  else none

/-- Brackets hold an IPv6 address, and a name that ends in a number is an IPv4 address. -/
def Host.parse? : List Char → Option Host
  | '[' :: rest =>
      match rest.reverse with
      | ']' :: inner => (Ipv6.parse? inner.reverse).map .ipv6
      | _ => none
  | source => do
      let name ← Name.parse? source
      if Ipv4.endsInNumber name then (Ipv4.parse? name).map .ipv4 else some (.name name)

/-- The path, the query and the fragment never make a URL invalid. -/
def parse? (source : String) : Option Url := do
  let (schemeName, afterColon) ← splitScheme? (clean source.toList)
  let scheme ← Scheme.ofName? schemeName
  let body := afterColon.dropWhile isSlash
  let authority := body.takeWhile fun character => !endsAuthority character
  let rest := body.dropWhile fun character => !endsAuthority character
  let hostAndPort ← dropUser? authority
  let (hostText, portText) := splitPort false hostAndPort
  if hostText.isEmpty then none
  let host ← Host.parse? hostText
  let port ← port? (portText.getD [])
  return ⟨scheme, host, port, rest⟩

end Url

end NodeBridge
