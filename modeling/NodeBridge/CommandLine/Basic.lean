import NodeBridge.CommandLine.Similarity

/-
This file reads the arguments of the program.
Two settings may be given, each of them once, and a word that is not understood ends the reading.
-/

namespace NodeBridge.CommandLine

/-- These settings take a value. -/
inductive Setting where
  | config
  | logLevel
  deriving DecidableEq

namespace Setting

def name : Setting → String
  | config => "config"
  | logLevel => "log-level"

def letter : Setting → Char
  | config => 'c'
  | logLevel => 'l'

/-- A setting is shown with the name of its value. -/
def shown : Setting → String
  | config => "--config <CONFIG>"
  | logLevel => "--log-level <LOG_LEVEL>"

def ofName? (name : String) : Option Setting :=
  if name = config.name then some config
  else if name = logLevel.name then some logLevel
  else none

def ofLetter? (letter : Char) : Option Setting :=
  if letter = config.letter then some config
  else if letter = logLevel.letter then some logLevel
  else none

/-- A path has at least one character. -/
def accepts (setting : Setting) (value : String) : Bool :=
  setting = logLevel || !value.isEmpty

end Setting

/-- What the program was told to do. -/
structure Options where
  config : Option String := none
  logLevel : Option String := none
  deriving DecidableEq

/-- The settings that were used before the error are shown in the usage. -/
inductive UsageError where
  | unexpected (argument : String) (suggestion : Option String) (used : List String)
  | unexpectedValue (value : String) (used : List String)
  | missingValue (setting : Setting)
  | repeated (setting : Setting)
  deriving DecidableEq

def usageLine (used : List String) : String :=
  "Usage: axis-bridge " ++ (if used.isEmpty then "[OPTIONS]" else String.intercalate " " used)

def helpHint : String := "For more information, try '--help'.\n"

namespace UsageError

/-- Paragraphs are separated by empty lines. -/
def paragraphs : UsageError → List String
  | unexpected argument suggestion used =>
      ["error: unexpected argument '" ++ argument ++ "' found"] ++
        (suggestion.map fun name =>
          "  tip: a similar argument exists: '--" ++ name ++ "'").toList ++ [usageLine used]
  | unexpectedValue value used =>
      ["error: unexpected value '" ++ value ++ "' for '--help' found; no more were expected",
        usageLine used]
  | missingValue setting =>
      ["error: a value is required for '" ++ setting.shown ++ "' but none was supplied"]
  | repeated setting =>
      ["error: the argument '" ++ setting.shown ++ "' cannot be used multiple times", usageLine []]

def message (error : UsageError) : String :=
  String.intercalate "\n\n" (error.paragraphs ++ [helpHint])

end UsageError

/-- The program runs, shows its help or refuses its arguments. -/
inductive Request where
  | run (options : Options)
  | help
  | refused (error : UsageError)
  deriving DecidableEq

def helpText : String :=
  "Full node bridge with a resilient block header feed\n\n" ++ usageLine [] ++ "\n\nOptions:\n" ++
    "  -c, --config <CONFIG>        Path to the TOML configuration file\n" ++
    "  -l, --log-level <LOG_LEVEL>  Override the configured log level\n" ++
    "  -h, --help                   Print help\n"

/-- A setting waits for its value, and the settings that were given keep their order. -/
structure Reading where
  given : List (Setting × String) := []
  pending : Option (Setting × Option String) := none

namespace Reading

def used (reading : Reading) : List Setting := reading.given.map Prod.fst

/-- What waits is taken in, unless it has no value or was given before. -/
def resolve (reading : Reading) : Except UsageError Reading :=
  match reading.pending with
  | none => .ok reading
  | some (setting, none) => .error (.missingValue setting)
  | some (setting, some value) =>
      if reading.used.contains setting then .error (.repeated setting)
      else if !setting.accepts value then .error (.missingValue setting)
      else .ok { given := reading.given ++ [(setting, value)] }

/-- A setting that was given twice no longer counts as used. -/
def settled (reading : Reading) : List Setting :=
  match reading.pending with
  | some (setting, some _) =>
      if reading.used.contains setting then reading.used.filter (· ≠ setting)
      else reading.used ++ [setting]
  | _ => reading.used

/-- A value that is attached is taken in at once. -/
def expect (setting : Setting) (value : Option String) (reading : Reading) :
    Except UsageError Reading := do
  let waiting := { ← reading.resolve with pending := some (setting, value) }
  if value.isSome then waiting.resolve else return waiting

def options (reading : Reading) : Options where
  config := reading.given.lookup .config
  logLevel := reading.given.lookup .logLevel

end Reading

def names : List String := [Setting.config.name, Setting.logLevel.name, "help"]

def shownName (name : String) : String :=
  match Setting.ofName? name with
  | some setting => setting.shown
  | none => "--" ++ name

/-- A name that resembles a known one is answered with a tip. -/
def unknownName (name : String) (reading : Reading) : UsageError :=
  let used := reading.settled.map Setting.shown
  match closest? name names with
  | none => .unexpected ("--" ++ name) none used
  | some known =>
      let shown := shownName known
      .unexpected ("--" ++ name) (some known) (if used.contains shown then used else used ++ [shown])

/-- One argument leads on, asks for help or is refused. -/
inductive Step where
  | proceed (reading : Reading)
  | help
  | refused (error : UsageError)

namespace Step

def ofResult : Except UsageError Reading → Step
  | .ok reading => proceed reading
  | .error error => refused error

/-- Help is given only if nothing before it was wrong. -/
def helpAfter (reading : Reading) : Step :=
  match reading.resolve with
  | .ok _ => help
  | .error error => refused error

/-- A value may be attached to a name after an equals sign. -/
def ofName (body : List Char) (reading : Reading) : Step :=
  let name := String.ofList (body.takeWhile (· ≠ '='))
  let value := match body.dropWhile (· ≠ '=') with
    | [] => none
    | _ :: rest => some (String.ofList rest)
  match Setting.ofName? name with
  | some setting => ofResult (reading.expect setting value)
  | none =>
      if name = "help" then
        match value with
        | none => helpAfter reading
        | some value => refused (.unexpectedValue value (reading.used.map Setting.shown))
      else refused (unknownName name reading)

/-- A value may follow its letter at once or after an equals sign. -/
def ofLetters (letters : List Char) (reading : Reading) : Step :=
  match letters with
  | [] => proceed reading
  | letter :: rest =>
      match Setting.ofLetter? letter with
      | some setting =>
          let value := match rest with
            | [] => none
            | '=' :: value => some (String.ofList value)
            | value => some (String.ofList value)
          ofResult (reading.expect setting value)
      | none =>
          if letter = 'h' then helpAfter reading
          else refused (.unexpected (String.ofList ['-', letter]) none [])

/-- A word without a hyphen is the value of the setting that waits for one. -/
def ofWord (word : String) (reading : Reading) : Step :=
  match reading.pending with
  | some (setting, none) => proceed { reading with pending := some (setting, some word) }
  | _ => refused (.unexpected word none [])

def ofArgument (argument : String) (reading : Reading) : Step :=
  match argument.toList with
  | '-' :: '-' :: body => ofName body reading
  | '-' :: letter :: letters => ofLetters (letter :: letters) reading
  | _ => ofWord argument reading

end Step

/-- After two hyphens alone no argument is expected any more. -/
def readFrom : Reading → List String → Request
  | reading, [] =>
      match reading.resolve with
      | .ok resolved => .run resolved.options
      | .error error => .refused error
  | reading, argument :: rest =>
      if argument = "--" then
        match rest with
        | [] => readFrom reading []
        | extra :: _ => .refused (.unexpected extra none [])
      else
        match Step.ofArgument argument reading with
        | .proceed next => readFrom next rest
        | .help => .help
        | .refused error => .refused error

def parse (arguments : List String) : Request := readFrom {} arguments

end NodeBridge.CommandLine
