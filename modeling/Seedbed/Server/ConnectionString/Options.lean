import Seedbed.Server.ConnectionString.Fault
import Seedbed.Server.Retry
import Seedbed.Text.LowerCase
import Seedbed.Text.Numeral
import Seedbed.Text.Percent
import Seedbed.Text.Similarity
import Seedbed.Text.Split

/-!
# Options of a connection string

The options are pairs of a name and a value with an ampersand between them; names are the same in upper and in lower case, and
values may hold codes for bytes. Options are read from the left, and the first one that is unknown, repeated or of no valid value
decides. What is kept of them is what the client acts on.
-/

namespace Seedbed.ConnectionString

/-- How a client proves who it is. -/
inductive Mechanism where
  | scram
  | challenge
  | certificate
  | plain
  | token
  deriving DecidableEq, Repr

/-- Whether dealings are encrypted, and if they are whether it has been said how far the other side is trusted. -/
inductive Encryption where
  | off
  | on (lenienceGiven : Bool)
  deriving DecidableEq, Repr

/-- From which members of a cluster one reads: from the primary one, or from others too. -/
inductive Preference where
  | primary
  | others
  deriving DecidableEq, Repr

/-- What the options ask for. -/
structure Settings where
  mechanism : Option Mechanism
  source : Option String
  direct : Option Bool
  balanced : Option Bool
  heartbeat : Option Nat
  concerns : Concerns
  pool : Option Nat
  connecting : Option Nat
  preference : Option Preference
  /-- Whether members are chosen by tags. -/
  tagged : Bool
  staleness : Option Nat
  set : Option String
  service : Option String
  hostLimit : Option Nat
  encryption : Option Encryption
  /-- What a mechanism is told besides who logs in. -/
  properties : List (String × String)
  /-- The files that certificates and keys are read from. -/
  files : List String
  retries : RetryPolicy
  deriving DecidableEq, Repr

/-- Nothing is asked for. -/
def Settings.none : Settings :=
  ⟨.none, .none, .none, .none, .none, .none, .none, .none, .none, false, .none, .none, .none, .none, .none, [], [], .usual⟩

/-- The names that a name which is none of an option is likened to. Not every option is among them, and not every one of them is an
option of this client. -/
def likenedNames : List String := [
  "adaptiveretries", "appname", "authmechanism", "authsource", "authmechanismproperties", "compressors", "connecttimeoutms",
  "directconnection", "heartbeatfrequencyms", "journal", "localthresholdms", "maxidletimems", "maxstalenessseconds",
  "maxpoolsize", "minpoolsize", "maxconnecting", "proxyhost", "proxypassword", "proxyport", "proxyusername",
  "readconcernlevel", "readpreference", "readpreferencetags", "replicaset", "retrywrites", "retryreads",
  "servermonitoringmode", "serverselectiontimeoutms", "sockettimeoutms", "tls", "ssl", "tlsinsecure",
  "tlsallowinvalidcertificates", "tlscafile", "tlscertificatekeyfile", "uuidRepresentation", "w", "waitqueuetimeoutms",
  "wtimeoutms", "zlibcompressionlevel"]

/-- The likeness from which on one name is taken for another one. -/
def similarFrom : Text.Fraction := ⟨84, 100⟩

/-- The fault of a name that is none of an option, with the name that may have been meant. -/
def unknown (name : String) : Fault :=
  let (similar, likeness) := Text.mostAlike likenedNames name
  .unknownOption name (if likeness.below similarFrom then .none else some similar)

/-- A truth value. -/
def readBoolean (name value : String) : Except Fault Bool :=
  match value with
  | "true" => .ok true
  | "false" => .ok false
  | _ => .error (.invalidValue name .boolean)

/-- A natural number of 64 bits. -/
def readCount (name value : String) : Except Fault Nat :=
  (Text.readNatural 18446744073709551615 value.toList).mapError (fun _ => .invalidValue name .natural)

/-- A natural number of 32 bits. -/
def readSize (name value : String) : Except Fault Nat :=
  (Text.readNatural 4294967295 value.toList).mapError (fun _ => .invalidValue name .positive)

/-- Who has to confirm a write: a number of members, or a name. -/
def readAcknowledgment (value : String) : Except Fault Acknowledgment :=
  match Text.readInteger 2147483648 2147483647 value.toList with
  | .ok (.ofNat count) => .ok (.members count)
  | .ok _ => .error .negativeMembers
  | .error _ => .ok (.named value)

/-- From which members one reads. -/
def readPreference (value : String) : Except Fault Preference :=
  match Text.lowerCase value with
  | "primary" => .ok .primary
  | "secondary" | "primarypreferred" | "secondarypreferred" | "nearest" => .ok .others
  | other => .error (.unknownPreference other)

/-- Tags of members: names and values, each with a colon between them. -/
def checkTags (value : String) : Except Fault Unit :=
  if value = "" ∨ (Text.splitAll ',' value.toList).all (·.contains ':') then .ok () else .error (.invalidTags value)

/-- How many seconds a member may be behind. One second less than none stands for any number of seconds. -/
def readStaleness (value : String) : Except Fault (Option Nat) :=
  match Text.readInteger 9223372036854775808 9223372036854775807 value.toList with
  | .error fault => .error (.invalidStaleness fault)
  | .ok (.ofNat seconds) => .ok (some seconds)
  | .ok (-1) => .ok .none
  | .ok seconds => .error (.negativeStaleness seconds)

/-- Properties of a mechanism: names and values, each with a colon between them. Some may not be given here. -/
def readProperties (value : String) : Except Fault (List (String × String)) :=
  (Text.splitAll ',' value.toList).mapM (fun entry =>
    match Text.splitFirst? ':' entry with
    | .none => .error (.invalidProperty (String.ofList entry))
    | some (name, value) =>
      let name := String.ofList name
      if ["ALLOWED_HOSTS", "OIDC_CALLBACK", "OIDC_HUMAN_CALLBACK"].contains name then .error (.reservedProperty name)
      else .ok (name, String.ofList value))

/-- The level of a compression, which this client does not have. -/
def refuseCompression {α : Type} (name value : String) : Except Fault α :=
  match Text.readInteger 2147483648 2147483647 value.toList with
  | .error _ => .error (.invalidValue name .integer)
  | .ok level =>
    if level < -1 then .error .lowCompression
    else if 9 < level then .error .highCompression
    else .error .noCompression

/-- A mechanism by its name. -/
def readMechanism (value : String) : Except Fault Mechanism :=
  match value with
  | "SCRAM-SHA-1" | "SCRAM-SHA-256" => .ok .scram
  | "MONGODB-CR" => .ok .challenge
  | "MONGODB-X509" => .ok .certificate
  | "PLAIN" => .ok .plain
  | "MONGODB-OIDC" => .ok .token
  | "MONGODB-AWS" => .error (.unsupportedMechanism value "aws-auth feature flag and the tokio runtime")
  | "GSSAPI" => .error (.unsupportedMechanism value "gssapi-auth feature flag")
  | _ => .error (.unknownMechanism value)

namespace Settings

/-- Encryption switched on or off, if it has not been switched the other way. -/
def switchEncryption (s : Settings) (wanted : Bool) : Except Fault Settings :=
  match s.encryption, wanted with
  | .none, true => .ok { s with encryption := some (.on false) }
  | .none, false => .ok { s with encryption := some .off }
  | some (.on _), true => .ok s
  | some .off, false => .ok s
  | _, _ => .error (.contradiction .encryptionSwitched)

/-- Encryption switched on by an option that says more of it, unless it has been switched off. -/
def encrypt (s : Settings) (name : String) : Except Fault Settings :=
  match s.encryption with
  | some .off => .error (.contradiction (.notEncrypted name))
  | some (.on _) => .ok s
  | .none => .ok { s with encryption := some (.on false) }

/-- How far the other side is trusted, which is said once. -/
def setLenience (s : Settings) (name : String) : Except Fault Settings := do
  let s ← s.encrypt name
  if s.encryption = some (.on true) then .error (.contradiction .lenienceRepeated)
  else .ok { s with encryption := some (.on true) }

/-- A file that certificates or keys are read from. -/
def addFile (s : Settings) (name path : String) : Except Fault Settings := do
  let s ← s.encrypt name
  .ok { s with files := s.files ++ [path] }

/-- What is asked of writes, changed. -/
def writing (s : Settings) (change : WriteConcern → WriteConcern) : Settings :=
  { s with concerns := { s.concerns with write := change s.concerns.write } }

/-- The settings with one option, whose name is in lower case. -/
def take (s : Settings) (name value : String) : Except Fault Settings :=
  match name with
  | "appname" => .ok s
  | "authmechanism" => do .ok { s with mechanism := some (← readMechanism value) }
  | "authsource" => .ok { s with source := some value }
  | "authmechanismproperties" => do .ok { s with properties := ← readProperties value }
  | "connecttimeoutms" | "localthresholdms" | "maxidletimems" | "serverselectiontimeoutms" | "sockettimeoutms"
  | "waitqueuetimeoutms" => do let _ ← readCount name value; .ok s
  | "directconnection" => do .ok { s with direct := some (← readBoolean name value) }
  | "heartbeatfrequencyms" => do .ok { s with heartbeat := some (← readCount name value) }
  | "journal" => do
    let journal ← readBoolean name value
    .ok (s.writing (fun w => { w with journal := some journal }))
  | "loadbalanced" => do .ok { s with balanced := some (← readBoolean name value) }
  | "maxstalenessseconds" => do
    match ← readStaleness value with
    | .none => .ok s
    | some seconds => .ok { s with staleness := some seconds }
  | "maxpoolsize" => do .ok { s with pool := some (← readSize name value) }
  | "minpoolsize" => do let _ ← readSize name value; .ok s
  | "maxconnecting" => do .ok { s with connecting := some (← readSize name value) }
  | "readconcernlevel" => .ok { s with concerns := { s.concerns with read := ⟨some value⟩ } }
  | "readpreference" => do .ok { s with preference := some (← readPreference value) }
  | "readpreferencetags" => do checkTags value; .ok { s with tagged := true }
  | "replicaset" => .ok { s with set := some value }
  | "retrywrites" => do .ok { s with retries := { s.retries with writes := ← readBoolean name value } }
  | "retryreads" => do .ok { s with retries := { s.retries with reads := ← readBoolean name value } }
  | "maxadaptiveretries" => do .ok { s with retries := { s.retries with patience := ← readSize name value } }
  | "enableoverloadretargeting" => do let _ ← readBoolean name value; .ok s
  | "servermonitoringmode" =>
    let mode := Text.lowerCase value
    if ["stream", "poll", "auto"].contains mode then .ok s else .error (.unknownMonitoring mode)
  | "srvservicename" => .ok { s with service := some value }
  | "srvmaxhosts" => do .ok { s with hostLimit := some (← readSize name value) }
  | "tls" | "ssl" => do s.switchEncryption (← readBoolean name value)
  | "tlsinsecure" | "tlsallowinvalidcertificates" => do
    let _ ← readBoolean name value
    s.setLenience name
  | "tlscafile" | "tlscertificatekeyfile" => s.addFile name value
  | "tlscertificatekeyfilepassword" => .error .noKeyPassword
  | "proxyhost" | "proxypassword" | "proxyport" | "proxyusername" => .error (.noProxy name)
  | "uuidrepresentation" =>
    if ["csharplegacy", "javalegacy", "pythonlegacy"].contains (Text.lowerCase value) then .ok s
    else .error (.unknownRepresentation value)
  | "w" => do
    let acknowledgment ← readAcknowledgment value
    .ok (s.writing (fun w => { w with acknowledgment := some acknowledgment }))
  | "wtimeoutms" => do
    let millis ← readCount name value
    .ok (s.writing (fun w => { w with timeout := some millis }))
  | "zlibcompressionlevel" => refuseCompression name value
  | _ => .error (unknown name)

/-- Options read onto settings, `names` being those of the options before them in lower case. Tags alone may be given more than
once. -/
def takeAll (s : Settings) (names : List String) : List (List Char) → Except Fault Settings
  | [] => .ok s
  | pair :: rest =>
    match Text.splitFirst? '=' pair with
    | .none => .error (.noPair (String.ofList pair))
    | some (name, value) =>
      let name := Text.lowerCase (String.ofList name)
      if name ≠ "readpreferencetags" ∧ name ∈ names then .error .repeatedOption
      else
        match s.take name (Text.percentDecodeLossy value) with
        | .error fault => .error fault
        | .ok s => s.takeAll (name :: names) rest

/-- Tags and staleness tell other members apart, so either asks that reading from others be allowed. -/
def checkReading (s : Settings) : Except Fault Unit := do
  if s.tagged then
    match s.preference with
    | .none => .error (.contradiction .tagsAlone)
    | some .primary => .error (.contradiction .tagsOfPrimary)
    | some .others => .ok ()
  if s.staleness.isSome then
    match s.preference with
    | .none => .error (.contradiction .stalenessAlone)
    | some .primary => .error (.contradiction .stalenessOfPrimary)
    | some .others => .ok ()

/-- The settings of the options of a connection string. -/
def read (text : List Char) : Except Fault Settings := do
  let s ← if text = [] then .ok Settings.none else Settings.none.takeAll [] (Text.splitAll '&' text)
  s.checkReading
  .ok s

end Settings

end Seedbed.ConnectionString
