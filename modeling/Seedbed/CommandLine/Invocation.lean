import Seedbed.CommandLine.Arguments

/-!
# Invocations of the program

What the arguments of the whole program ask for: a command with its own arguments, or help on a topic.
-/

namespace Seedbed.CommandLine

/-- What the program is to do. -/
inductive Invocation where
  /-- Runs the seed plan, and then the checks if they are asked for. -/
  | seed (target : Target) (verify : Bool)
  | verify (target : Target)
  /-- Shows the seed plan and what it leaves behind. -/
  | plan
  deriving DecidableEq, Repr

/-- What there is help on. -/
inductive Topic where
  | program | seed | verify | plan | help
  deriving DecidableEq, Repr

/-- Why the program is not to do anything: it has been asked for help, or the arguments are at fault. -/
inductive Stop where
  | help (topic : Topic)
  | misuse (fault : Fault)
  deriving DecidableEq, Repr

/-- The result of reading the arguments of a command, the help asked for being that on the command. -/
def onTopic {α : Type} (topic : Topic) : Except Fault α → Except Stop α
  | .ok a => .ok a
  | .error .helpWanted => .error (.help topic)
  | .error fault => .error (.misuse fault)

/-- The topic of a command. -/
def topic? (command : String) : Option Topic :=
  match command with
  | "seed" => some .seed
  | "verify" => some .verify
  | "plan" => some .plan
  | "help" => some .help
  | _ => none

/-- Arguments that ask for help by the command for it. -/
def readHelp : List String → Stop
  | [] => .help .program
  | [command] =>
    match topic? command with
    | some topic => .help topic
    | none => .misuse .unknownCommand
  | _ => .misuse .unknownCommand

/-- The command of the seed plan. -/
def readSeed (env : Environment) (arguments : List String) : Except Fault Invocation := do
  let given ← readGiven (.verify :: targetFlags) arguments
  let target ← given.target env
  .ok (.seed target given.verify)

/-- What the program is asked to do. -/
def read (env : Environment) : List String → Except Stop Invocation
  | [] => .error (.misuse .missingCommand)
  | "seed" :: rest => onTopic .seed (readSeed env rest)
  | "verify" :: rest => onTopic .verify ((readTarget env rest).map Invocation.verify)
  | "plan" :: rest => onTopic .plan ((readGiven [.help] rest).map (fun _ => Invocation.plan))
  | "help" :: rest => .error (readHelp rest)
  | "--help" :: _ => .error (.help .program)
  | argument :: _ =>
    match argument.toList with
    | '-' :: 'h' :: _ => .error (.help .program)
    | '-' :: _ :: _ => .error (.misuse .unknownArgument)
    | _ => .error (.misuse .unknownCommand)

end Seedbed.CommandLine
