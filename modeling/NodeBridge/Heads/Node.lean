import NodeBridge.Connection.Exchange
import NodeBridge.Hex
import NodeBridge.Word

/-
This file defines the block headers that a node announces and the node itself.
A node numbers the subscriptions it grants, unless it was told how to reply.
-/

namespace NodeBridge.Heads

/-- A header is known by its number and its hash. -/
structure Header where
  number : Nat
  hash : Word
  deriving DecidableEq

def Header.hashText (header : Header) : String := Hex.padded 64 header.hash.toNat

/-- An announcement is a header or something else, which nobody reads. -/
inductive Notice where
  | header (header : Header)
  | other

/-- The name of a subscription is a number wherever it can be read as one. -/
inductive ServerId where
  | number (value : Word)
  | text (source : String)
  deriving DecidableEq

namespace ServerId

def ofText (source : String) : ServerId :=
  match Word.ofText? source with
  | some value => number value
  | none => text source

/-- Only texts and small numbers name a subscription. -/
def ofJson? : Json → Option ServerId
  | .text source => some (ofText source)
  | .integer value => if 0 ≤ value then some (number (BitVec.ofNat 256 value.toNat)) else none
  | _ => none

def toJson : ServerId → Json
  | number value => .text value.hex
  | text source => .text source

end ServerId

/-- A reply that was set may use up a number, and the next connections may be refused. -/
structure Node where
  nextServer : Nat := 1
  countsReplies : Bool := false
  replies : List Connection.Outcome := []
  requests : List Connection.Request := []
  refusals : Nat := 0
  connects : Nat := 0

namespace Node

def receive (method : String) (parameters : List Json) (node : Node) : Node :=
  { node with requests := node.requests ++ [⟨method, .list parameters⟩] }

/-- A subscription is granted under the next number unless a reply was set. -/
def subscribe (node : Node) : Connection.Outcome × Node :=
  let asked := node.receive "eth_subscribe" [.text "newHeads"]
  match asked.replies with
  | reply :: rest =>
      let step := if asked.countsReplies then 1 else 0
      (reply, { asked with replies := rest, nextServer := asked.nextServer + step })
  | [] =>
      (.result (.text (Hex.ofNat asked.nextServer)),
        { asked with nextServer := asked.nextServer + 1 })

def unsubscribe (server : ServerId) (node : Node) : Node :=
  node.receive "eth_unsubscribe" [server.toJson]

/-- Every attempt to connect is counted, also a refused one. -/
def connect (node : Node) : Bool × Node :=
  let tried := { node with connects := node.connects + 1 }
  if 0 < tried.refusals then (false, { tried with refusals := tried.refusals - 1 })
  else (true, tried)

end Node

end NodeBridge.Heads
