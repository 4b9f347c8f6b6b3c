import Seedbed.Server.ConnectionString.Options

/-!
# Credentials

Who logs in: the name of a user and a password in front of an at-sign, in which some characters can stand only as codes. What is
needed of them, and what may not be given, is up to the mechanism by which the client proves who it is.
-/

namespace Seedbed.ConnectionString

/-- The characters that credentials can have only as codes. -/
def reservedInCredentials : List Char := [':', '/', '?', '#', '[', ']', '@']

/-- One part of the credentials. -/
def readCredential (part : String) (text : List Char) : Except Fault String :=
  if text.any reservedInCredentials.contains then .error (.notEncoded part)
  else if !Text.percentsAreCodes text then .error (.loosePercent part)
  else
    match Text.percentDecode? text with
    | some credential => .ok credential
    | none => .error (.notEncoded part)

/-- The name of a user, if one is given, and a password. -/
def readCredentials (text : List Char) : Except Fault (Option String × Option String) := do
  let (user, password) :=
    match Text.splitFirst? ':' text with
    | some (user, password) => (user, some password)
    | none => (text, none)
  if user = [] then .ok (none, none)
  else
    let user ← readCredential "username" user
    match password with
    | none => .ok (some user, none)
    | some password => .ok (some user, some (← readCredential "password" password))

/-- Whether a source of credentials is other than the one outside all databases. -/
def isInternal (source : Option String) : Bool := source.getD "$external" ≠ "$external"

/-- The value of a property; of several ones it is the last. -/
def propertyValue? (properties : List (String × String)) (name : String) : Option String :=
  (properties.reverse.find? (fun property => property.1 = name)).map Prod.snd

/-- The environments that tokens are told apart by the resource that they are for. -/
def resourceEnvironments : List String := ["azure", "gcp"]

/-- The environments that this client can have a token from. -/
def tokenEnvironments : List String := ["k8s"]

/-- Credentials held against a login by a token, which the environment gives out. -/
def checkToken (password source : Option String) (properties : List (String × String)) : Except Fault Unit :=
  let refuse (conflict : Conflict) : Except Fault Unit := .error (.contradiction conflict)
  let environment := propertyValue? properties "ENVIRONMENT"
  let forResource := environment.any resourceEnvironments.contains
  let resource := propertyValue? properties "TOKEN_RESOURCE"
  match properties.find? (fun property => property.1 ∉ ["ENVIRONMENT", "TOKEN_RESOURCE"]) with
  | some (name, _) => refuse (.tokenProperty name)
  | none =>
    if forResource && resource.isNone then refuse .noTokenResource
    else if !forResource && resource.isSome then refuse .tokenResourceGiven
    else if isInternal source then refuse .otherSourceOfToken
    else if password.isSome then refuse .passwordOfToken
    else
      match environment with
      | some name => if tokenEnvironments.contains name then .ok () else refuse (.tokenEnvironment name)
      | none => .ok ()

/-- Credentials held against the mechanism that they are for. -/
def checkMechanism (mechanism : Mechanism) (user password source : Option String) (properties : List (String × String)) :
    Except Fault Unit :=
  let refuse (conflict : Conflict) : Except Fault Unit := .error (.contradiction conflict)
  match mechanism with
  | .scram => if user.isNone then refuse (.noUser "SCRAM") else .ok ()
  | .challenge => .ok ()
  | .certificate =>
    if password.isSome then refuse (.passwordGiven "MONGODB-X509")
    else if isInternal source then refuse (.otherSource "MONGODB-X509")
    else .ok ()
  | .plain =>
    if user.isNone then refuse (.noUser "PLAIN")
    else if password.isNone then refuse (.noPassword "PLAIN")
    else .ok ()
  | .token => checkToken password source properties

/-- The credentials of a text, which is missing if nobody is to log in, held against the settings. -/
def checkCredentials (text : Option (List Char)) (s : Settings) : Except Fault Unit := do
  let (user, password) ← readCredentials (text.getD [])
  if s.source = some "" then .error (.contradiction .emptySource)
  else
    match s.mechanism with
    | some mechanism => checkMechanism mechanism user password s.source s.properties
    | none => if user.isNone && text.isSome then .error (.contradiction .nobody) else .ok ()

end Seedbed.ConnectionString
