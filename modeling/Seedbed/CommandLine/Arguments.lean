import Seedbed.Duration
import Seedbed.Text.Terminal

/-!
# Arguments of a command

The arguments that follow a command: settings with a value of their own or after an equals sign, switches, and the request for
help. A setting that waits for its value, or has just got it, is settled when the next flag or the end of the arguments is
reached. Faults are therefore reported in the order in which settings are settled, and an argument that is unknown is reported
before the setting in front of it is settled. What is not given is taken from the environment, and then from the defaults.
-/

namespace Seedbed.CommandLine

/-- What the environment asks of the program. -/
structure Environment where
  connectionString : Option String
  connectTimeout : Option String
  /-- Which lines of the log are shown. -/
  logSelection : Option String
  deriving DecidableEq, Repr

/-- Flags that have a value. -/
inductive Setting where
  | connectionString
  | connectTimeout
  deriving DecidableEq, Repr

/-- Flags of any kind. -/
inductive Flag where
  | setting (setting : Setting)
  | verify
  | help
  deriving DecidableEq, Repr

/-- The name of a flag, without the dashes in front of it. -/
def Flag.name : Flag → String
  | .setting .connectionString => "mongodb-connection-string"
  | .setting .connectTimeout => "connect-timeout"
  | .verify => "verify"
  | .help => "help"

/-- Why arguments do not say what to do. -/
inductive Fault where
  /-- Help is asked for. -/
  | helpWanted
  | unknownArgument
  | missingValue
  | repeatedFlag
  | valueOfSwitch
  | invalidTimeout (value : String) (fault : DurationFault)
  | missingConnectionString
  | missingCommand
  | unknownCommand
  deriving DecidableEq, Repr

/-- A fault in words, which repeat a value without what a terminal would act on in it. -/
def Fault.message : Fault → String
  | .helpWanted => "error: help is wanted"
  | .unknownArgument => "error: unexpected argument"
  | .missingValue => "error: a value is required for an option, but none was supplied"
  | .repeatedFlag => "error: an option cannot be used multiple times"
  | .valueOfSwitch => "error: unexpected value for an option that has none"
  | .invalidTimeout value fault =>
    "error: invalid value '" ++ Text.stripControls value ++ "' for '--connect-timeout <CONNECT_TIMEOUT>': " ++
      Text.stripControls fault.headline
  | .missingConnectionString => "error: --mongodb-connection-string <MONGODB_CONNECTION_STRING> is required, but was not provided"
  | .missingCommand => "error: a command is required, but none was provided"
  | .unknownCommand => "error: unrecognized command"

/-- How to reach the server. -/
structure Target where
  connectionString : String
  timeout : Duration
  deriving DecidableEq, Repr

/-- What has been settled so far. -/
structure Given where
  connectionString : Option String
  timeout : Option Duration
  verify : Bool
  deriving DecidableEq, Repr

/-- The timeout of a value. -/
def readTimeout (value : String) : Except Fault Duration :=
  match Duration.read value.toList with
  | .ok timeout => .ok timeout
  | .error fault => .error (.invalidTimeout value fault)

/-- A setting settled with its value; no setting is settled twice. -/
def Given.settle (given : Given) (setting : Setting) (value : String) : Except Fault Given :=
  match setting with
  | .connectionString =>
    if given.connectionString.isSome then .error .repeatedFlag else .ok { given with connectionString := some value }
  | .connectTimeout =>
    if given.timeout.isSome then .error .repeatedFlag
    else (readTimeout value).map (fun timeout => { given with timeout := some timeout })

/-- What has been settled, and the setting that is still to be settled, with its value if it has got one. -/
structure Progress where
  given : Given
  pending : Option (Setting × Option String)
  deriving DecidableEq, Repr

/-- What has been settled after the pending setting is settled too. -/
def Progress.settled (p : Progress) : Except Fault Given :=
  match p.pending with
  | none => .ok p.given
  | some (_, none) => .error .missingValue
  | some (setting, some value) => p.given.settle setting value

/-- A flag, and the value after its equals sign if it has one. -/
def Progress.flag (p : Progress) (flag : Flag) (attached : Option String) : Except Fault Progress :=
  match flag, attached with
  | .setting setting, none => p.settled.map (fun given => ⟨given, some (setting, none)⟩)
  | .setting setting, some value => do
    let given ← p.settled
    let given ← given.settle setting value
    .ok ⟨given, none⟩
  | .verify, none => do
    let given ← p.settled
    if given.verify then .error .repeatedFlag else .ok ⟨{ given with verify := true }, none⟩
  | .help, none => p.settled >>= fun _ => .error .helpWanted
  | _, some _ => .error .valueOfSwitch

/-- An argument that is no flag: the value that the pending setting waits for. -/
def Progress.value (p : Progress) (argument : String) : Except Fault Progress :=
  match p.pending with
  | some (setting, none) => .ok { p with pending := some (setting, some argument) }
  | _ => .error .unknownArgument

/-- The name and the attached value in the text of a flag behind its dashes. -/
def splitAttached (text : List Char) : String × Option String :=
  (String.ofList (text.takeWhile (· ≠ '=')),
    match text.dropWhile (· ≠ '=') with
    | [] => none
    | _ :: value => some (String.ofList value))

/-- One argument other than two dashes alone, `flags` being the flags that there are. -/
def Progress.argument (flags : List Flag) (p : Progress) (argument : String) : Except Fault Progress :=
  match argument.toList with
  | '-' :: '-' :: rest =>
    let (name, attached) := splitAttached rest
    match flags.find? (fun flag => flag.name = name) with
    | some flag => p.flag flag attached
    | none => .error .unknownArgument
  | '-' :: 'h' :: _ => p.flag .help none
  | '-' :: _ :: _ => .error .unknownArgument
  | _ => p.value argument

/-- All arguments. Nothing may follow two dashes alone. -/
def Progress.arguments (flags : List Flag) (p : Progress) : List String → Except Fault Given
  | [] => p.settled
  | "--" :: [] => p.settled
  | "--" :: _ :: _ => .error .unknownArgument
  | argument :: rest =>
    match p.argument flags argument with
    | .error fault => .error fault
    | .ok p => p.arguments flags rest

/-- What arguments give. -/
def readGiven (flags : List Flag) (arguments : List String) : Except Fault Given :=
  Progress.arguments flags ⟨⟨none, none, false⟩, none⟩ arguments

/-- The timeout where none is given. -/
def defaultTimeout : Duration := ⟨10⟩

/-- How to reach the server, by what is given and by the environment. -/
def Given.target (env : Environment) (given : Given) : Except Fault Target := do
  let connectionString := given.connectionString <|> env.connectionString
  let timeout ←
    match given.timeout, env.connectTimeout with
    | some timeout, _ => .ok timeout
    | none, some value => readTimeout value
    | none, none => .ok defaultTimeout
  match connectionString with
  | some connectionString => .ok ⟨connectionString, timeout⟩
  | none => .error .missingConnectionString

/-- The flags by which the server is reached, and the request for help. -/
def targetFlags : List Flag := [.setting .connectionString, .setting .connectTimeout, .help]

/-- How to reach the server, by arguments that are about nothing else. -/
def readTarget (env : Environment) (arguments : List String) : Except Fault Target := do
  let given ← readGiven targetFlags arguments
  given.target env

end Seedbed.CommandLine
