import Seedbed.Text.Numeral
import Seedbed.Text.Quoted

/-!
# Faults of connection strings

Why a text is no connection string, in three layers: an address may be out of shape, an option may have a value that it cannot
have, and options that are each in order may contradict each other or be more than this client can do.
-/

namespace Seedbed.ConnectionString

/-- Why a text is no address. -/
inductive AddressFault where
  /-- A bracket is not closed. -/
  | openBracket
  /-- What stands in brackets is no address of the sixth version of the protocol. -/
  | noLiteral
  /-- Something other than a colon follows the brackets. -/
  | stray (text : String)
  | noHost
  | invalidNumber (number : String)
  deriving DecidableEq, Repr

/-- A fault of an address in words. -/
def AddressFault.message : AddressFault → String
  | .openBracket => "missing closing ']' in IP literal hostname"
  | .noLiteral => "invalid IPv6 address syntax"
  | .stray text => "the hostname can only be followed by a port prefixed with ':', got " ++ text
  | .noHost => "the hostname cannot be empty"
  | .invalidNumber number => "the port must be an integer between 1 and 65535, got " ++ number

/-- What kind of value an option has. -/
inductive ValueKind where
  | boolean | natural | positive | integer
  deriving DecidableEq, Repr

/-- The demand that an option makes of its value, in words. -/
def ValueKind.demand : ValueKind → String
  | .boolean => "option must be a boolean"
  | .natural => "option must be a non-negative integer"
  | .positive => "argument must be a positive integer"
  | .integer => "argument must be an integer"

/-- Why options cannot go together, or are more than the client can do. -/
inductive Conflict where
  | encryptionSwitched
  | lenienceRepeated
  | notEncrypted (name : String)
  | journalUnconfirmed
  | manyDirect
  | manyBalanced
  | setBalanced
  | directBalanced
  | noPool
  | noConnecting
  | heartbeat (millis : Nat)
  /-- Members may be less behind than it takes to notice that they are. -/
  | shortStaleness (least : Nat)
  | tagsAlone
  | tagsOfPrimary
  | stalenessAlone
  | stalenessOfPrimary
  | serviceWithoutRecord
  | limitWithoutRecord
  | limitOfSet
  | limitBalanced
  | emptySource
  | nobody
  | noUser (mechanism : String)
  | noPassword (mechanism : String)
  | passwordGiven (mechanism : String)
  | otherSource (mechanism : String)
  | tokenProperty (name : String)
  | noTokenResource
  | tokenResourceGiven
  | otherSourceOfToken
  | passwordOfToken
  | tokenEnvironment (name : String)
  deriving DecidableEq, Repr

/-- A conflict in words. -/
def Conflict.message : Conflict → String
  | .encryptionSwitched => "cannot set \x7bkey\x7d=\x7btls\x7d if other TLS options are set"
  | .lenienceRepeated => "cannot set both tlsinsecure and tlsallowinvalidcertificates in the connection string"
  | .notEncrypted name => "cannot set " ++ name ++ " when TLS is disabled"
  | .journalUnconfirmed => "write concern cannot have w=0 and j=true"
  | .manyDirect => "cannot specify multiple seeds with directConnection=true"
  | .manyBalanced => "cannot specify multiple seeds with loadBalanced=true"
  | .setBalanced => "cannot specify replicaSet with loadBalanced=true"
  | .directBalanced => "cannot specify directConnection=true with loadBalanced=true"
  | .noPool => "cannot specify maxPoolSize=0"
  | .noConnecting => "cannot specify maxConnecting=0"
  | .heartbeat millis => "'heartbeat_freq' must be at least 500ms, but " ++ toString millis ++ "ms was given"
  | .shortStaleness least => "invalid max_staleness value: must be at least " ++ toString least ++ " seconds"
  | .tagsAlone => "cannot set read preference tags without also setting read preference mode"
  | .tagsOfPrimary => "read preference tags can only be specified when a non-primary mode is specified"
  | .stalenessAlone => "cannot set max staleness without also setting read preference mode"
  | .stalenessOfPrimary => "max staleness can only be specified when a non-primary mode is specified"
  | .serviceWithoutRecord => "srvServiceName cannot be specified with a non-SRV URI"
  | .limitWithoutRecord => "srvMaxHosts cannot be specified with a non-SRV URI"
  | .limitOfSet => "srvMaxHosts and replicaSet cannot both be present"
  | .limitBalanced => "srvMaxHosts and loadBalanced=true cannot both be present"
  | .emptySource => "empty authSource provided"
  | .nobody => "username and mechanism both not provided, but authentication was requested"
  | .noUser mechanism => "No username provided for " ++ mechanism ++ " authentication"
  | .noPassword mechanism => "No password provided for " ++ mechanism ++ " authentication"
  | .passwordGiven mechanism => "A password cannot be specified with " ++ mechanism
  | .otherSource mechanism => "only $external may be specified as an auth source for " ++ mechanism
  | .tokenProperty name => "'" ++ name ++ "' is not a valid property for MONGODB-OIDC authentication"
  | .noTokenResource =>
    "`TOKEN_RESOURCE` must be set for MONGODB-OIDC authentication in the `azure` or `gcp` `ENVIRONMENT`"
  | .tokenResourceGiven =>
    "`TOKEN_RESOURCE` must not be set for MONGODB-OIDC authentication unless using the `azure` or `gcp` `ENVIRONMENT`"
  | .otherSourceOfToken => "source must be $external for MONGODB-OIDC authentication"
  | .passwordOfToken => "password must not be set for MONGODB-OIDC authentication"
  | .tokenEnvironment name => "unsupported environment for MONGODB-OIDC authentication: " ++ name

/-- Why a text is no connection string. -/
inductive Fault where
  | noScheme
  | unknownScheme (scheme : String)
  | noAddress (text : String) (fault : AddressFault)
  /-- A part of the text has to be written with codes for some of its characters. -/
  | notEncoded (part : String)
  | loosePercent (part : String)
  | databaseCharacter (c : Char)
  /-- The name of a record stands for hosts, and more or something else is given. -/
  | recordOfMany
  | recordWithNumber
  | recordOfSocket
  | noPair (text : String)
  | repeatedOption
  | unknownOption (name : String) (similar : Option String)
  | invalidValue (name : String) (kind : ValueKind)
  | negativeMembers
  | unknownPreference (value : String)
  | invalidTags (tags : String)
  | invalidStaleness (fault : Text.NumeralFault)
  | negativeStaleness (seconds : Int)
  | unknownMonitoring (value : String)
  | unknownRepresentation (value : String)
  | invalidProperty (entry : String)
  | reservedProperty (name : String)
  | unknownMechanism (value : String)
  /-- A mechanism that the client has only with something that it is built without. -/
  | unsupportedMechanism (mechanism extra : String)
  | lowCompression
  | highCompression
  | noCompression
  | noKeyPassword
  | noProxy (name : String)
  | contradiction (conflict : Conflict)
  deriving DecidableEq, Repr

/-- A fault in words. -/
def Fault.message : Fault → String
  | .noScheme => "connection string contains no scheme"
  | .unknownScheme scheme => "unsupported connection string scheme: " ++ scheme
  | .noAddress text fault => "invalid server address " ++ text ++ ": " ++ fault.message
  | .notEncoded part => part ++ " must be URL encoded"
  | .loosePercent part => part ++ " cannot contain unescaped %"
  | .databaseCharacter c => "illegal character in database name: " ++ c.toString
  | .recordOfMany => "exactly one host must be specified with 'mongodb+srv'"
  | .recordWithNumber => "a port cannot be specified with 'mongodb+srv'"
  | .recordOfSocket => "unix sockets cannot be used with 'mongodb+srv'"
  | .noPair text => "connection string option is not a 'key=value' pair: " ++ text
  | .repeatedOption => "repeated options are not allowed in the connection string"
  | .unknownOption name none => name ++ " is an invalid option"
  | .unknownOption name (some similar) =>
    name ++ " is an invalid option. An option with a similar name exists: " ++ similar
  | .invalidValue name kind => "connection string `" ++ name ++ "` " ++ kind.demand
  | .negativeMembers => "connection string `w` option cannot be a negative integer"
  | .unknownPreference value => "'" ++ value ++ "' is not a valid read preference"
  | .invalidTags tags => "'" ++ tags ++ "' is not a valid read preference tag (which must be of the form 'key:value'"
  | .invalidStaleness fault => "invalid maxStalenessSeconds value: " ++ fault.message
  | .negativeStaleness seconds => "maxStalenessSeconds must be -1 or positive, instead got " ++ toString seconds
  | .unknownMonitoring value => Text.quote value ++ " is not a valid server monitoring mode"
  | .unknownRepresentation value =>
    "connection string `uuidRepresentation` option can be one of `csharpLegacy`, `javaLegacy`, or `pythonLegacy`. Received " ++
      "invalid `" ++ value ++ "`"
  | .invalidProperty entry =>
    "each entry in authMechanismProperties must be a colon-separated key-value pair, got " ++ entry
  | .reservedProperty name => name ++ " must only be specified through client options"
  | .unknownMechanism value => "invalid mechanism string: " ++ value
  | .unsupportedMechanism mechanism extra => mechanism ++ " auth is only supported with the " ++ extra
  | .lowCompression => "'zlibCompressionLevel' cannot be less than -1"
  | .highCompression => "'zlibCompressionLevel' cannot be greater than 9"
  | .noCompression => "zlibCompressionLevel may not be specified without the zlib-compression feature flag enabled"
  | .noKeyPassword => "the cert-key-password feature must be enabled to specify tlsCertificateKeyFilePassword in the URI"
  | .noProxy name => "cannot specify " ++ name ++ " if socks5-proxy feature is not enabled"
  | .contradiction conflict => conflict.message

end Seedbed.ConnectionString
