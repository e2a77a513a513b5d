/-
This file looks paths up in a tree of files and reads what they hold.
A failure tells how far the path could be followed.
-/

namespace NodeBridge

/-- A file holds bytes, a directory holds named entries, and a program listens at a socket. -/
inductive FileTree where
  | file (content : List UInt8)
  | socket
  | directory (entries : List (String × FileTree))
  deriving Inhabited

namespace FileTree

/-- Reading fails at the path, at the kind of its end or at the content. -/
inductive ReadError where
  | notFound
  | notReadable
  | notPermitted
  | notDirectory
  | isDirectory
  | nameTooLong
  | holdsNul
  | notText
  deriving DecidableEq

/-- The system gives its failures a number, and the others have none. -/
def ReadError.number? : ReadError → Option Nat
  | notFound => some 2
  | notReadable => some 6
  | notPermitted => some 13
  | notDirectory => some 20
  | isDirectory => some 21
  | nameTooLong => some 36
  | holdsNul => none
  | notText => none

/-- This is the wording without the number. -/
def ReadError.description : ReadError → String
  | notFound => "No such file or directory"
  | notReadable => "No such device or address"
  | notPermitted => "Permission denied"
  | notDirectory => "Not a directory"
  | isDirectory => "Is a directory"
  | nameTooLong => "File name too long"
  | holdsNul => "file name contained an unexpected NUL byte"
  | notText => "stream did not contain valid UTF-8"

def ReadError.message (error : ReadError) : String :=
  match error.number? with
  | some number => error.description ++ " (os error " ++ toString number ++ ")"
  | none => error.description

/-- A single name has at most 255 bytes. -/
def maximumName : Nat := 255

/-- A whole path has at most 4095 bytes. -/
def maximumPath : Nat := 4095

def entry? (name : String) : List (String × FileTree) → Option FileTree
  | [] => none
  | (key, tree) :: rest => if key = name then some tree else entry? name rest

/-- Each part of a path needs a directory to be looked up in, and two dots lead back. -/
def walk : List FileTree → FileTree → List String → Except ReadError FileTree
  | _, tree, [] => .ok tree
  | _, .file _, _ :: _ => .error .notDirectory
  | _, .socket, _ :: _ => .error .notDirectory
  | above, .directory entries, part :: path =>
      if part = "" ∨ part = "." then walk above (.directory entries) path
      else if part = ".." then
        match above with
        | [] => walk [] (.directory entries) path
        | parent :: rest => walk rest parent path
      else if maximumName < part.utf8ByteSize then .error .nameTooLong
      else
        match entry? part entries with
        | none => .error .notFound
        | some tree => walk (.directory entries :: above) tree path

/-- The empty path leads nowhere, and every other path begins at the root. -/
def find (tree : FileTree) (path : String) : Except ReadError FileTree :=
  if path.isEmpty then .error .notFound
  else if path.toList.contains (Char.ofNat 0) then .error .holdsNul
  else if maximumPath < path.utf8ByteSize then .error .nameTooLong
  else walk [] tree (path.splitOn "/")

/-- Only a file whose bytes are text can be read. -/
def text : FileTree → Except ReadError String
  | .directory _ => .error .isDirectory
  | .socket => .error .notReadable
  | .file content =>
      match String.fromUTF8? (ByteArray.mk content.toArray) with
      | none => .error .notText
      | some source => .ok source

end FileTree

end NodeBridge
