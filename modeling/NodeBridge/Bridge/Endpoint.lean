import NodeBridge.FileTree
import NodeBridge.Network.Error
import NodeBridge.Network.SocketAddress
import NodeBridge.Url.Basic

/-
This file decides how a node is reached and what the first contact leads to.
An address that is neither an HTTP nor a WebSocket URL is the path of a local socket.
-/

namespace NodeBridge.Bridge

/-- Only a stream or a local socket can carry subscriptions. -/
inductive Endpoint where
  | requests (url : String)
  | stream (url : String)
  | socket (path : String)
  deriving DecidableEq

/-- A stream is made or fails for a reason, or nothing comes of it in time. -/
abbrev Contact := Option (Except String Unit)

/-- Where nobody listens, a stream says that its input or output failed. -/
def unanswered (_url : String) : Contact :=
  some (.error ("IO error: " ++ Network.NetworkError.refused.message))

/-- The first contact fails at the path, at the system, on the stream or at the clock. -/
inductive DialError where
  | unreadable (path : String) (cause : FileTree.ReadError)
  | system (cause : Network.NetworkError)
  | broken (reason : String)
  | late
  deriving DecidableEq

def DialError.message : DialError → String
  | .unreadable path cause => "failed to read IPC path " ++ path ++ ": " ++ cause.message
  | .system cause => cause.message
  | .broken reason => reason
  | .late => "deadline has elapsed"

namespace Endpoint

/-- An address without a scheme is taken for HTTP. -/
def withScheme (source : String) : String :=
  if source.startsWith "localhost:" || (Network.SocketAddress.parse? source).isSome then
    "http://" ++ source
  else source

/-- Two schemes stand for local paths, and each of them may be left out. -/
def socketPath (source : String) : String :=
  if source.startsWith "file://" then (source.drop 7).toString
  else if source.startsWith "ipc://" then (source.drop 6).toString
  else source

def ofText (source : String) : Endpoint :=
  match (Url.parse? (withScheme source)).map Url.scheme with
  | some .http => requests source
  | some .https => requests source
  | some .ws => stream source
  | some .wss => stream source
  | _ => socket (socketPath source)

/-- Requests can be sent one by one over every endpoint, but only the others stay connected. -/
def isPubsub : Endpoint → Bool
  | requests _ => false
  | stream _ => true
  | socket _ => true

/-- Nothing is sent over HTTP, and no other connection is there at once. -/
def dial (find : String → Except FileTree.ReadError FileTree) (contact : String → Contact)
    (timeout : UInt64) : Endpoint → Except DialError Unit
  | requests _ => .ok ()
  | stream url =>
      if timeout = 0 then .error .late
      else
        match contact url with
        | none => .error .late
        | some (.error reason) => .error (.broken reason)
        | some (.ok ()) => .ok ()
  | socket path =>
      match find path with
      | .error cause => .error (.unreadable path cause)
      | .ok .socket => if timeout = 0 then .error .late else .ok ()
      | .ok _ => .error (.system .refused)

end Endpoint

end NodeBridge.Bridge
