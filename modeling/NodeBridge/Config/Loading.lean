import NodeBridge.Config.Toml
import NodeBridge.Config.Validation
import NodeBridge.FileTree

/-
This file loads configurations from files.
A configuration is handed out only after it was checked.
-/

namespace NodeBridge.Config

/-- Loading fails at the file, at the form of the text or at the settings. -/
inductive LoadError where
  | file (cause : FileTree.ReadError)
  | malformed
  | invalid (problems : List Problem)
  deriving DecidableEq

/-- Problems are listed one after the other. -/
def LoadError.message : LoadError → String
  | .file cause => "IO error: " ++ cause.message
  | .malformed => "Parse error"
  | .invalid problems =>
      "Validation failed: " ++ String.intercalate ", " (problems.map Problem.message)

/-- Only a valid configuration is handed out. -/
def checked (config : Config) : Except LoadError Config :=
  match config.problems with
  | [] => .ok config
  | problems => .error (.invalid problems)

def parse (source : String) : Except LoadError Config :=
  match ofToml? source with
  | none => .error .malformed
  | some config => config.checked

/-- What was found has to be a file whose content is text. -/
def ofFound (found : Except FileTree.ReadError FileTree) : Except LoadError Config :=
  match found >>= FileTree.text with
  | .error cause => .error (.file cause)
  | .ok source => parse source

def load (tree : FileTree) (path : String) : Except LoadError Config := ofFound (tree.find path)

end NodeBridge.Config
