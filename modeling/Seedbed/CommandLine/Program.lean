import Seedbed.CommandLine.Help
import Seedbed.Json.Extended
import Seedbed.Log.Selection
import Seedbed.Run.Seeder
import Seedbed.Run.Verify
import Seedbed.Server.Client
import Seedbed.Server.ConnectionString
import Seedbed.Store.Memory

/-!
# The program

What the program does with its arguments: it seeds the server, verifies it, or shows what seeding it would leave behind. The
program is a function of its arguments, the environment and the server; it yields a status, what it writes to each of its two
streams, and the server as it leaves it. Lines of the log go to the same stream as the rest of the output, in the order in which
things happen.
-/

namespace Seedbed

/-- How the program ends: the status, and what is written to the two streams. -/
structure Completion where
  status : Nat
  output : String
  errors : String
  deriving DecidableEq, Repr

/-- Why the program fails. -/
inductive ProgramError where
  | failure (failure : Failure)
  | fixture (error : FixtureError)
  /-- Checks do not pass: the names of those, and the number of all. -/
  | checks (failed : List String) (total : Nat)

/-- An error of the program in words. -/
def ProgramError.message : ProgramError → String
  | .failure f => f.message
  | .fixture error => error.message
  | .checks failed total => s!"{failed.length} of {total} checks failed: " ++ String.intercalate "; " failed

namespace Program

open CommandLine

/-- Succeeds if every check passed. -/
def judge {σ : Type} (v : Verification) : Action ProgramError σ Unit :=
  if v.success then Action.say .info .program s!"All {v.checks.length} checks passed"
  else .fail (.checks v.failures v.checks.length)

variable {κ : Type} [Server κ]

/-- What stands between the client and a deployment, `dial` being what there is on the way. No file is there to be read; a server
is chosen from those that are found, and none is found in no time; but a balancer is not chosen, it lets the client in or not. -/
def approach (dial : ConnectionString.Deployment → Access) (target : Target) (d : ConnectionString.Deployment) : Access :=
  if d.settings.files ≠ [] then .fileMissing
  else if d.settings.balanced = some true then
    match dial d with
    | .unreachable => .refused
    | access => access
  else if target.timeout.seconds = 0 then .unreachable
  else dial d

/-- Connects to the server of a target, `dial` being what there is on the way to a deployment, and keeps to what the connection
string asks of writing and reading and of sending commands again. -/
def connect (dial : ConnectionString.Deployment → Access) (target : Target) : Action ProgramError (Client κ) Unit :=
  let wrap (error : StoreError) : ProgramError := .failure ⟨.connecting, .store error⟩
  match ConnectionString.read target.connectionString with
  | .error fault => .fail (wrap ((ServerFault.client (.invalidArgument fault.message)).storeError Client.admin))
  | .ok deployment => fun client =>
    (Client.connect (approach dial target deployment)).mapError wrap
      { client with concerns := deployment.settings.concerns, retries := deployment.settings.retries }

/-- Runs the seed plan on the store. -/
def seedStore : Action ProgramError (Client κ) Unit := do
  let _ ← seed.mapError ProgramError.failure

/-- Verifies the store. -/
def verifyStore : Action ProgramError (Client κ) Unit := do
  let v ← verify.mapError ProgramError.failure
  judge v

/-- What is done on a server. -/
def onServer (dial : ConnectionString.Deployment → Access) (target : Target) (seeds verifies : Bool) :
    Action ProgramError (Client κ) Unit := do
  connect dial target
  if seeds then seedStore
  if verifies then verifyStore

/-- Lines of the log as they are written. -/
def logText (selection : Selection) (lines : List LogLine) : String := unlines ((selection.shown lines).map LogLine.render)

/-- The end of a program that has written something and failed or not. -/
def complete (output : String) : Except ProgramError Unit → Completion
  | .ok () => ⟨0, output, ""⟩
  | .error error => ⟨1, output, "Error: " ++ error.message ++ "\n"⟩

/-- A step of a plan with its number, which has two places at least. -/
def numbered (number : Nat) (step : Step) : String :=
  String.ofList (List.replicate (2 - (Text.digits number).length) ' ' ++ Text.digits number) ++ ". " ++ step.display

/-- The steps of a plan with their numbers. -/
def planLines (plan : Plan) : List String := plan.mapIdx (fun index step => numbered (index + 1) step)

/-- A collection and its documents. -/
def collectionText (ns : Namespace) (documents : List Document) : String :=
  "\n" ++ ns.render ++ ":\n" ++ (Json.array (documents.map (fun d => Json.ofValue (.document d)))).render ++ "\n"

/-- The seed plan, and what running it on an empty store in memory leaves behind. -/
def showPlan (selection : Selection) : Completion :=
  match seedPlan with
  | .error error => complete "" (.error (.fixture error))
  | .ok plan =>
    let ⟨result, memory, log⟩ := seed (Memory.empty ⟨0⟩)
    let before := unlines (planLines plan) ++ logText selection log
    match result with
    | .error failure => complete before (.error (.failure failure))
    | .ok _ =>
      complete (before ++ String.join (memory.snapshot.map (fun (ns, documents) => collectionText ns documents))) (.ok ())

/-- The end of a program that has worked on a server. -/
def concluded (selection : Selection) : Outcome ProgramError (Client κ) Unit → Completion × Client κ
  | ⟨result, client, log⟩ => (complete (logText selection log) result, client)

/-- The whole program. -/
def run (env : Environment) (dial : ConnectionString.Deployment → Access) (arguments : List String) (client : Client κ) :
    Completion × Client κ :=
  let selection := Selection.read (env.logSelection.getD "")
  match CommandLine.read env arguments with
  | .error (.help topic) => (⟨0, topic.text env, ""⟩, client)
  | .error (.misuse fault) => (⟨2, "", fault.message ++ "\n"⟩, client)
  | .ok .plan => (showPlan selection, client)
  | .ok (.seed target verifies) => concluded selection (onServer dial target true verifies client)
  | .ok (.verify target) => concluded selection (onServer dial target false true client)

end Program

end Seedbed
