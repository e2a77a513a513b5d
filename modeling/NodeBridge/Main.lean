import NodeBridge.Daemon.Run
import NodeBridge.Log.Line

/-
This file runs the program on a real machine.
The machine lends its files and its environment but no sockets, so every connection is refused.
-/

namespace NodeBridge

/-- This is the number that the system gives to a failure, if the failure keeps it. -/
def failureNumber? : IO.Error → Option UInt32
  | .noFileOrDirectory _ number _ => some number
  | .inappropriateType _ number _ => some number
  | .invalidArgument _ number _ => some number
  | .noSuchThing _ number _ => some number
  | .permissionDenied _ number _ => some number
  | .otherError number _ => some number
  | _ => none

/-- The number may come with a minus sign, which wraps around. -/
def withoutSign (number : UInt32) : UInt32 := if number < 0x80000000 then number else 0 - number

/-- A path leads to a file, to a directory or to nothing that can be read. -/
def foundAfter (failure : IO.Error) : Except FileTree.ReadError FileTree :=
  match (failureNumber? failure).map withoutSign with
  | some 6 => .ok .socket
  | some 13 => .error .notPermitted
  | some 20 => .error .notDirectory
  | some 21 => .ok (.directory [])
  | some 36 => .error .nameTooLong
  | _ => .error .notFound

def look (path : String) : IO (Except FileTree.ReadError FileTree) := do
  try
    let content ← IO.FS.readBinFile path
    return .ok (.file content.toList)
  catch failure => return foundAfter failure

/-- A socket is there but cannot be used. -/
def withoutSocket : Except FileTree.ReadError FileTree → Except FileTree.ReadError FileTree
  | .ok .socket => .ok (.file [])
  | found => found

def print (report : Daemon.Report) : IO UInt32 := do
  IO.print report.text
  for event in report.events do
    IO.println (if report.json then (Log.jsonLine event).compact else Log.plainLine event)
  IO.eprint report.remarks
  return UInt32.ofNat report.exit

/-- The configuration is read first, and the endpoint that it names is looked at next. -/
def runOptions (options : CommandLine.Options) : IO UInt32 := do
  let logWish ← IO.getEnv "RUST_LOG"
  let listen := fun _ => some Network.NetworkError.notSupported
  let configFound ← look (options.config.getD "")
  match Daemon.configuration { find := fun _ => configFound, logWish, listen } options with
  | .error cause =>
      print { exit := 1, remarks := (Daemon.Failure.configuration cause).message }
  | .ok config =>
      let endpointFound ← look (Bridge.Endpoint.socketPath config.rpc.url)
      let surroundings : Daemon.Surroundings :=
        { find := fun _ => withoutSocket endpointFound, logWish, listen }
      print (Daemon.runWith surroundings { exchange := { missing := .silent } } config)

end NodeBridge

/-- The arguments are read, and what they ask for is done. -/
def main (arguments : List String) : IO UInt32 :=
  match NodeBridge.CommandLine.parse arguments with
  | .help => NodeBridge.print { exit := 0, text := NodeBridge.CommandLine.helpText }
  | .refused error => NodeBridge.print { exit := 2, remarks := error.message }
  | .run options => NodeBridge.runOptions options
