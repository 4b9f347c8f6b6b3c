import Seedbed.Server.ConnectionString.Address
import Seedbed.Server.ConnectionString.Credentials

/-!
# Connection strings

The text by which a client is told where the servers are and how to deal with them: a scheme, credentials in front of an at-sign,
hosts with commas between them, a database behind a slash, and options behind a question mark. The hosts are read first, then the
database, the options and the credentials, and last the parts are held against each other.
-/

namespace Seedbed.ConnectionString

/-- Where servers are, and how to deal with them. -/
structure Deployment where
  hosts : List Address
  settings : Settings
  deriving DecidableEq, Repr

/-- The scheme of a text and what follows the mark behind it, which is a colon and two slashes. -/
def splitScheme? : List Char → Option (List Char × List Char)
  | [] => none
  | ':' :: '/' :: '/' :: rest => some ([], rest)
  | c :: rest => (splitScheme? rest).map (fun (scheme, after) => (c :: scheme, after))

/-- Whether hosts are looked up in a record under the one that is given, by the scheme of a text. -/
def readScheme (scheme : String) : Except Fault Bool :=
  match scheme with
  | "mongodb" => .ok false
  | "mongodb+srv" => .ok true
  | other => .error (.unknownScheme other)

/-- The host that a record is looked up under has to be one alone, without a number. -/
def checkRecord : List Address → Except Fault Unit
  | [.host _ .none] => .ok ()
  | [.host _ (some _)] => .error .recordWithNumber
  | [.socket _] => .error .recordOfSocket
  | _ => .error .recordOfMany

/-- The characters that the name of a database cannot have. -/
def forbiddenInDatabase : List Char := ['/', '\\', ' ', '"', '$']

/-- The name of a database, if one is given. -/
def readDatabase (text : List Char) : Except Fault (Option String) :=
  if text = [] then .ok none
  else
    match Text.percentDecode? text with
    | none => .error (.notEncoded "database name")
    | some name =>
      match name.toList.find? forbiddenInDatabase.contains with
      | some c => .error (.databaseCharacter c)
      | none => .ok (some name)

/-- The settings that only a record can meet. -/
def checkRecordSettings (recorded : Bool) (s : Settings) : Except Fault Unit :=
  let refuse (conflict : Conflict) : Except Fault Unit := .error (.contradiction conflict)
  if s.service.isSome && !recorded then refuse .serviceWithoutRecord
  else if s.hostLimit.isSome && !recorded then refuse .limitWithoutRecord
  else if s.hostLimit.getD 0 = 0 then .ok ()
  else if s.set.isSome then refuse .limitOfSet
  else if s.balanced = some true then refuse .limitBalanced
  else .ok ()

namespace Deployment

/-- The least time between two signs of life, in milliseconds. -/
def leastHeartbeat : Nat := 500

/-- The time between two signs of life where nothing is said of it, in milliseconds. -/
def usualHeartbeat : Nat := 10000

/-- How many milliseconds members may be behind at least: one that has nothing to write does so every ten seconds, and it takes
another sign of life until that is known; and a minute and a half is the least in any case. -/
def leastStaleness (s : Settings) : Nat := max 90000 (s.heartbeat.getD usualHeartbeat + 10000)

/-- The parts of a deployment held against each other. -/
def check (d : Deployment) : Except Fault Unit :=
  let s := d.settings
  let refuse (conflict : Conflict) : Except Fault Unit := .error (.contradiction conflict)
  if s.direct = some true ∧ 1 < d.hosts.length then refuse .manyDirect
  else if s.concerns.write.acknowledgment = some (.members 0) ∧ s.concerns.write.journal = some true then
    refuse .journalUnconfirmed
  else if s.balanced = some true ∧ 1 < d.hosts.length then refuse .manyBalanced
  else if s.balanced = some true ∧ s.set.isSome then refuse .setBalanced
  else if s.balanced = some true ∧ s.direct = some true then refuse .directBalanced
  else if s.pool = some 0 then refuse .noPool
  else if s.connecting = some 0 then refuse .noConnecting
  else if s.staleness.any (fun seconds => seconds * 1000 < leastStaleness s) then
    refuse (.shortStaleness (leastStaleness s / 1000))
  else if s.heartbeat.getD leastHeartbeat < leastHeartbeat then refuse (.heartbeat (s.heartbeat.getD 0))
  else .ok ()

/-- Whether dealings are encrypted. -/
def encrypted (d : Deployment) : Bool :=
  match d.settings.encryption with
  | some (.on _) => true
  | _ => false

end Deployment

/-- The deployment that a text tells of. -/
def read (text : String) : Except Fault Deployment :=
  match splitScheme? text.toList with
  | none => .error .noScheme
  | some (scheme, rest) => do
    let recorded ← readScheme (String.ofList scheme)
    let (front, options) := (Text.splitFirst? '?' rest).getD (rest, [])
    let (credentials, place) :=
      match Text.splitLast? '@' front with
      | some (credentials, place) => (some credentials, place)
      | none => (none, front)
    let (hosts, database) := (Text.splitFirst? '/' place).getD (place, [])
    let hosts ← (Text.splitAll ',' hosts).mapM readAddress
    if recorded then checkRecord hosts
    let _ ← readDatabase database
    let settings ← Settings.read options
    checkRecordSettings recorded settings
    checkCredentials credentials settings
    let deployment : Deployment := ⟨hosts, settings⟩
    deployment.check
    .ok deployment

end Seedbed.ConnectionString
