import NodeBridge.Bridge.Error
import NodeBridge.Config.Loading
import NodeBridge.Text.Quoted

/-
This file describes why the program ends early, with the parts of the failure named.
-/

namespace NodeBridge

/-- Failures that the system has no name for are not put into a category. -/
def FileTree.ReadError.category : FileTree.ReadError → String
  | .notFound => "NotFound"
  | .notReadable => "Uncategorized"
  | .notPermitted => "PermissionDenied"
  | .notDirectory => "NotADirectory"
  | .isDirectory => "IsADirectory"
  | .nameTooLong => "InvalidFilename"
  | .holdsNul => "InvalidInput"
  | .notText => "InvalidData"

/-- A failure of the system shows its number. -/
def FileTree.ReadError.shown (error : FileTree.ReadError) : String :=
  let message := "message: " ++ Text.debugQuote error.description
  match error.number? with
  | some number =>
      "Os \x7b code: " ++ toString number ++ ", kind: " ++ error.category ++ ", " ++ message ++
        " \x7d"
  | none => "Error \x7b kind: " ++ error.category ++ ", " ++ message ++ " \x7d"

namespace Config

def Problem.shown : Problem → String
  | .unsupportedEndpoint value => "UnsupportedEndpoint(" ++ Text.debugQuote value ++ ")"
  | .invalidAddress name value =>
      "InvalidAddress \x7b field: " ++ Text.debugQuote name ++ ", value: " ++
        Text.debugQuote value ++ " \x7d"
  | .zero name => "Zero(" ++ Text.debugQuote name ++ ")"
  | .emptyTopic => "EmptyTopic"
  | .capacityTooLarge value maximum =>
      "CapacityTooLarge \x7b value: " ++ toString value ++ ", max: " ++ toString maximum ++ " \x7d"
  | .unknownLogLevel value => "UnknownLogLevel(" ++ Text.debugQuote value ++ ")"

/-- A text that is malformed is not described further. -/
def LoadError.shown : LoadError → String
  | .file cause => "Io(" ++ cause.shown ++ ")"
  | .malformed => "Parse"
  | .invalid problems =>
      "Validation([" ++ String.intercalate ", " (problems.map Problem.shown) ++ "])"

end Config

def Staking.Failure.shown : Staking.Failure → String
  | .call method reason =>
      "Call \x7b call: " ++ Text.debugQuote method ++ ", reason: " ++ Text.debugQuote reason ++
        " \x7d"
  | .timeout method seconds =>
      "Timeout \x7b call: " ++ Text.debugQuote method ++ ", secs: " ++ toString seconds ++ " \x7d"
  | .malformed cause => "Malformed(" ++ Text.debugQuote cause.message ++ ")"
  | .notConfigured contract => "NotConfigured(" ++ Text.debugQuote contract ++ ")"

def Bridge.Failure.shown : Bridge.Failure → String
  | .node reason => "Rpc(" ++ Text.debugQuote reason ++ ")"
  | .timeout seconds => "Timeout(" ++ toString seconds ++ ")"
  | .staking cause => "Sfc(" ++ cause.shown ++ ")"

namespace Daemon

/-- The configuration cannot be loaded or the bridge cannot be built. -/
inductive Failure where
  | configuration (cause : Config.LoadError)
  | bridge (cause : Bridge.Failure)
  deriving DecidableEq

def Failure.message : Failure → String
  | .configuration cause => "Error: " ++ cause.shown ++ "\n"
  | .bridge cause => "Error: " ++ cause.shown ++ "\n"

end Daemon

end NodeBridge
